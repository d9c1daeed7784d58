import Mathlib.Data.List.Basic
import Mathlib.Data.List.Perm.Subperm
import RedisKeeper.Proofs.Address.RoundTrip
import RedisKeeper.Proofs.Node.Safety
import RedisKeeper.Proofs.Text.Searching
import RedisKeeper.Proofs.Topology.Table

/-
A cluster whose pods have version 4 addresses, as it answers while passes are
made over it.

`Membership` is what the commands that worked so far have come to, `Site.Tells`
says which tables a leader may then tell, and `Site.Fits` which answers a log may
hold.  A table is searched for the text of an address, so the addresses must be
`Site.Apart`.  The step that a table calls for is settled by the membership alone
(`Site.Tells.decideStep_eq`), whichever leader tells it and in whichever order.
-/
namespace RedisKeeper

namespace Ipv4

/-- The address as it stands in a row, with the ports of a node. -/
def rowAddress (a : Ipv4) : List Char := a.text ++ ":6379@16379".toList

theorem contains_colon_rowAddress_iff (a b : Ipv4) :
    Text.contains (b.text ++ [':']) a.rowAddress = true ↔ b.text <:+ a.text := by
  have ha : ':' ∉ a.text := not_mem_text (by decide) (by decide) a
  have hports : ':' ∉ "6379@16379".toList := by decide
  have hnone : Text.contains (b.text ++ [':']) a.text = false :=
    Text.contains_eq_false (List.mem_append_right _ List.mem_cons_self) ha
  have hsplit : a.rowAddress = a.text ++ ':' :: "6379@16379".toList := rfl
  rw [hsplit, Text.contains_concat_iff hports, hnone]
  exact or_iff_left Bool.false_ne_true

theorem not_contains_bracket_rowAddress (a : Ipv4) (needle : List Char) :
    Text.contains ('[' :: needle) a.rowAddress = false := by
  have ha : '[' ∉ a.text := not_mem_text (by decide) (by decide) a
  have hports : '[' ∉ ":6379@16379".toList := by decide
  refine Text.contains_eq_false List.mem_cons_self ?_
  rw [rowAddress, List.mem_append]
  exact not_or.mpr ⟨ha, hports⟩

end Ipv4

namespace Node

/-! ## Commands and what they come to -/

def Query.creates : Query → Bool
  | .execute _ argv => argv[2]? == some "create"
  | _ => false

/-- Whether a command attaches the node with an endpoint. -/
def Query.joins (endpoint : String) : Query → Bool
  | .execute _ argv => argv[2]? == some "add-node" && argv[3]? == some endpoint
  | _ => false

/-- Whether a command was run and succeeded. -/
def worked : Exchange interface → Bool
  | ⟨.execute _ _, .ok _⟩ => true
  | _ => false

/-- What the commands that worked so far have come to. -/
structure Membership where
  formed : Bool
  /-- The followers that were attached, in order. -/
  joined : List Nat
deriving DecidableEq

def Membership.fresh : Membership := ⟨false, []⟩

/-- A cluster whose pods have version 4 addresses. -/
structure Site where
  tools : Tools
  target : Target
  /-- The address of each pod. -/
  net : Role → Nat → Ipv4

namespace Site

/-- No pod's address is the end of another's, nor the same. -/
def Apart (site : Site) : Prop :=
  ∀ role role' i j, i < site.target.replicas role → j < site.target.replicas role' →
    (site.net role i).text <:+ (site.net role' j).text → role = role' ∧ i = j

def address (site : Site) (role : Role) (index : Nat) : Address := .v4 (site.net role index)

def endpoint (site : Site) (role : Role) (index : Nat) : String :=
  (site.address role index).endpoint site.tools.tcp

/-- What a command that worked adds to what there was. -/
def after (site : Site) (m : Membership) (e : Exchange interface) : Membership :=
  if worked e then
    if e.query.creates then ⟨true, []⟩
    else
      { m with
        joined := m.joined ++ (List.range site.target.followers).filter fun i =>
          e.query.joins (site.endpoint .follower i) }
  else m

def afterAll (site : Site) (m : Membership) (log : Log) : Membership := log.foldl site.after m

/-- Address and flags of each row of the table of the leader with index `own`. -/
def rows (site : Site) (m : Membership) (own : Nat) : List (List Char × List Char) :=
  if m.formed then
    (List.range site.target.leaders).map (fun i =>
      ((site.net .leader i).rowAddress,
        if i = own then "myself,master".toList else "master".toList)) ++
    m.joined.map fun i => ((site.net .follower i).rowAddress, "slave".toList)
  else [((site.net .leader own).rowAddress, "myself,master".toList)]

/-- The tables that the leader with index `own` may tell.  Rows come in any order. -/
structure Tells (site : Site) (m : Membership) (own : Nat) (table : Snapshot) : Prop where
  valid : ∀ r ∈ table.records, r.Valid
  connected : ∀ r ∈ table.records, r.linkState = "connected".toList
  perm : (table.records.map fun r => (r.address, r.flags)).Perm (site.rows m own)

/-- Whether an answer is one that the cluster may give.  Any question may fail. -/
def Answers (site : Site) (m : Membership) : Exchange interface → Prop
  | ⟨.resolve pod, .ok a⟩ =>
    ∀ role i, i < site.target.replicas role → pod = site.target.pod role i →
      a = site.address role i
  | ⟨.store (.nodes host), .ok text⟩ =>
    ∀ own < site.target.leaders, host = (site.address .leader own).host →
      ∃ table, site.Tells m own table ∧ (text = table.toText ∨ text = table.toText ++ "\n")
  | _ => True

/-- Whether all exchanges of a log are as they may be at the time. -/
def Along (site : Site) (P : Membership → Exchange interface → Prop) : Membership → Log → Prop
  | _, [] => True
  | m, e :: log => P m e ∧ site.Along P (site.after m e) log

/-- Whether all answers in a log are ones that the cluster may give at the time. -/
def Fits (site : Site) : Membership → Log → Prop := site.Along site.Answers

variable {site : Site} {m : Membership} {own : Nat} {table : Snapshot}

@[simp] theorem afterAll_nil (m : Membership) : site.afterAll m [] = m := rfl

@[simp] theorem afterAll_cons (m : Membership) (e : Exchange interface) (log : Log) :
    site.afterAll m (e :: log) = site.afterAll (site.after m e) log := rfl

theorem afterAll_append (m : Membership) (first second : Log) :
    site.afterAll m (first ++ second) = site.afterAll (site.afterAll m first) second :=
  List.foldl_append

theorem along_append {P : Membership → Exchange interface → Prop} {first second : Log} :
    site.Along P m (first ++ second) ↔
      site.Along P m first ∧ site.Along P (site.afterAll m first) second := by
  induction first generalizing m with
  | nil => simp [Along]
  | cons e first ih => rw [List.cons_append, Along, Along, ih, and_assoc, afterAll_cons]

theorem after_of_not_worked {e : Exchange interface} (h : worked e = false) :
    site.after m e = m := by
  rw [after, h]
  rfl

/-- Only commands that worked have come to anything. -/
theorem afterAll_of_quiet {log : Log} (h : ∀ e ∈ log, worked e = false) :
    site.afterAll m log = m := by
  induction log with
  | nil => rfl
  | cons e log ih =>
    obtain ⟨he, hlog⟩ := List.forall_mem_cons.mp h
    rw [afterAll_cons, after_of_not_worked he]
    exact ih hlog

/-! ## What the tables say -/

theorem Tells.size_eq (h : site.Tells m own table) : table.size = (site.rows m own).length := by
  rw [Snapshot.size, ← h.perm.length_eq, List.length_map]

theorem Tells.countRole_eq (h : site.Tells m own table) (role : Role) :
    table.countRole role =
      (site.rows m own).countP fun row => Text.contains role.flag.toList row.2 := by
  rw [← h.perm.countP_eq, List.countP_map]
  rfl

theorem flags_of_mem_rows {row : List Char × List Char} (h : row ∈ site.rows m own) :
    row.2 ∈ ["myself,master".toList, "master".toList, "slave".toList] := by
  rw [rows] at h
  split at h
  · rcases List.mem_append.mp h with h | h
    · obtain ⟨i, -, rfl⟩ := List.mem_map.mp h
      dsimp only
      split <;> simp
    · obtain ⟨i, -, rfl⟩ := List.mem_map.mp h
      simp
  · rw [List.mem_singleton] at h
    rw [h]
    simp

theorem address_of_mem_rows {row : List Char × List Char} (h : row ∈ site.rows m own) :
    ∃ a : Ipv4, row.1 = a.rowAddress := by
  rw [rows] at h
  split at h
  · rcases List.mem_append.mp h with h | h
    · obtain ⟨i, -, rfl⟩ := List.mem_map.mp h
      exact ⟨_, rfl⟩
    · obtain ⟨i, -, rfl⟩ := List.mem_map.mp h
      exact ⟨_, rfl⟩
  · rw [List.mem_singleton] at h
    exact ⟨_, congrArg Prod.fst h⟩

theorem Tells.countFailing_eq (h : site.Tells m own table) : table.countFailing = 0 := by
  refine List.countP_eq_zero.mpr fun r hr => ?_
  have hflags := flags_of_mem_rows (h.perm.subset (List.mem_map_of_mem hr))
  have hsound : ∀ flags ∈ ["myself,master".toList, "master".toList, "slave".toList],
      Text.contains "fail".toList flags = false := by decide
  rw [Record.isFailing, hsound _ hflags, h.connected r hr]
  decide

/-- Rows hold no brackets, so a host is only found with a colon behind it. -/
theorem Tells.lists_iff (h : site.Tells m own table) (a : Ipv4) :
    table.lists (Address.v4 a).host = true ↔
      ∃ row ∈ site.rows m own, Text.contains (a.text ++ [':']) row.1 = true := by
  have hplain : ∀ row ∈ site.rows m own,
      (Text.contains (a.text ++ [':']) row.1 ||
        Text.contains ('[' :: a.text ++ [']', ':']) row.1) =
      Text.contains (a.text ++ [':']) row.1 := by
    intro row hrow
    obtain ⟨b, hb⟩ := address_of_mem_rows hrow
    rw [hb, List.cons_append, Ipv4.not_contains_bracket_rowAddress, Bool.or_false]
  rw [Snapshot.lists, List.any_eq_true, Address.host, String.toList_ofList]
  constructor
  · rintro ⟨r, hr, hfound⟩
    have hmem := h.perm.subset (List.mem_map_of_mem hr)
    exact ⟨(r.address, r.flags), hmem, (hplain _ hmem).symm.trans hfound⟩
  · rintro ⟨row, hrow, hfound⟩
    obtain ⟨r, hr, rfl⟩ := List.mem_map.mp (h.perm.symm.subset hrow)
    exact ⟨r, hr, (hplain _ hrow).trans hfound⟩

end Site

/-! ## The step that is due -/

/-- Followers are attached to a cluster that was formed, and none of them twice. -/
structure Membership.Sound (m : Membership) (followers : Nat) : Prop where
  nodup : m.joined.Nodup
  bound : ∀ i ∈ m.joined, i < followers
  unformed : m.formed = false → m.joined = []

/-- The step that is due, as the membership alone settles it. -/
def Membership.due (m : Membership) (followers : Nat) : Step :=
  if m.formed then if m.joined.length < followers then .attachFollowers else .none
  else .bootstrap

theorem Membership.due_eq_none_iff {m : Membership} {followers : Nat} :
    m.due followers = .none ↔ m.formed = true ∧ followers ≤ m.joined.length := by
  unfold due
  grind

theorem Membership.due_eq_bootstrap_iff {m : Membership} {followers : Nat} :
    m.due followers = .bootstrap ↔ m.formed = false := by
  unfold due
  grind

theorem Membership.due_eq_attachFollowers_iff {m : Membership} {followers : Nat} :
    m.due followers = .attachFollowers ↔ m.formed = true ∧ m.joined.length < followers := by
  unfold due
  grind

theorem Membership.due_ne_failover {m : Membership} {followers : Nat} :
    m.due followers ≠ .failover := by
  unfold due
  grind

namespace Membership.Sound

variable {m : Membership} {followers : Nat}

theorem length_le (h : m.Sound followers) : m.joined.length ≤ followers := by
  have hsub : m.joined ⊆ List.range followers := fun i hi => List.mem_range.mpr (h.bound i hi)
  have hle := (List.subperm_of_subset h.nodup hsub).length_le
  rwa [List.length_range] at hle

/-- All followers are attached when as many are as there are. -/
theorem mem_of_length (h : m.Sound followers) (hlength : followers ≤ m.joined.length) {i : Nat}
    (hi : i < followers) : i ∈ m.joined := by
  have hsub : m.joined ⊆ List.range followers := fun i hi => List.mem_range.mpr (h.bound i hi)
  have hperm := (List.subperm_of_subset h.nodup hsub).perm_of_length_le (by rwa [List.length_range])
  exact hperm.symm.subset (List.mem_range.mpr hi)

theorem length_of_mem (h : ∀ i < followers, i ∈ m.joined) : followers ≤ m.joined.length := by
  have hsub : List.range followers ⊆ m.joined := fun i hi => h i (List.mem_range.mp hi)
  have hle := (List.subperm_of_subset List.nodup_range hsub).length_le
  rwa [List.length_range] at hle

end Membership.Sound

namespace Site

variable {site : Site} {m : Membership} {own : Nat} {table : Snapshot}

theorem countP_rows (h : m.formed = true) :
    (site.rows m own).countP (fun row => Text.contains Role.leader.flag.toList row.2) =
      site.target.leaders := by
  rw [rows, if_pos h, List.countP_append, List.countP_map, List.countP_map]
  have hleader : ∀ i, Text.contains Role.leader.flag.toList
      (if i = own then "myself,master".toList else "master".toList) = true := by
    intro i
    split <;> decide
  have hfollower : Text.contains Role.leader.flag.toList "slave".toList ≠ true := by decide
  have hall := List.countP_eq_length.mpr fun i (_ : i ∈ List.range site.target.leaders) => hleader i
  have hnone := List.countP_eq_zero.mpr fun i (_ : i ∈ m.joined) => hfollower
  exact (congrArg₂ (· + ·) hall hnone).trans (by rw [List.length_range, Nat.add_zero])

/-- Whichever leader is asked, and in whichever order it tells its rows, its table
calls for the step that is due. -/
theorem Tells.decideStep_eq (h : site.Tells m own table) (hleaders : 2 ≤ site.target.leaders)
    (hsound : m.Sound site.target.followers) :
    decideStep site.target.leaders site.target.followers table =
      m.due site.target.followers := by
  have hsize := h.size_eq
  have hrole := h.countRole_eq .leader
  rw [Membership.due]
  cases hformed : m.formed with
  | false =>
    have hone : site.rows m own =
        [((site.net .leader own).rowAddress, "myself,master".toList)] := by
      rw [rows, hformed]
      rfl
    rw [hone] at hsize hrole
    have hsize : table.size = 1 := hsize
    have hrole : table.countRole .leader = 1 := hrole.trans (by rfl)
    rw [if_neg Bool.false_ne_true, decideStep_eq_bootstrap_iff]
    omega
  | true =>
    rw [countP_rows hformed] at hrole
    have hsize : table.size = site.target.leaders + m.joined.length := by
      rw [hsize, rows, if_pos hformed, List.length_append, List.length_map, List.length_map,
        List.length_range]
    have hle := hsound.length_le
    rw [if_pos rfl]
    by_cases hfew : m.joined.length < site.target.followers
    · rw [if_pos hfew, decideStep_eq_attachFollowers_iff]
      omega
    · have hall : table.size = site.target.leaders + site.target.followers := by omega
      rw [if_neg hfew, decideStep, if_neg (by omega), if_neg (not_not.mpr hall),
        h.countFailing_eq, if_neg (Nat.lt_irrefl 0)]

/-- The table lists the followers that were attached and no others. -/
theorem Tells.lists_follower_iff (h : site.Tells m own table) (hapart : site.Apart)
    (hsound : m.Sound site.target.followers) (hformed : m.formed = true) {i : Nat}
    (hi : i < site.target.followers) :
    table.lists (site.address .follower i).host = true ↔ i ∈ m.joined := by
  rw [address, h.lists_iff, rows, if_pos hformed]
  constructor
  · rintro ⟨row, hrow, hfound⟩
    rcases List.mem_append.mp hrow with hrow | hrow
    · obtain ⟨j, hj, rfl⟩ := List.mem_map.mp hrow
      have hsuffix := (Ipv4.contains_colon_rowAddress_iff _ _).mp hfound
      have hrole := (hapart .follower .leader i j hi (List.mem_range.mp hj) hsuffix).1
      exact absurd hrole (by decide)
    · obtain ⟨j, hj, rfl⟩ := List.mem_map.mp hrow
      have hsuffix := (Ipv4.contains_colon_rowAddress_iff _ _).mp hfound
      rwa [(hapart .follower .follower i j hi (hsound.bound j hj) hsuffix).2]
  · intro hmem
    refine ⟨_, List.mem_append_right _ (List.mem_map_of_mem hmem), ?_⟩
    exact (Ipv4.contains_colon_rowAddress_iff _ _).mpr List.suffix_rfl

end Site
end Node
end RedisKeeper
