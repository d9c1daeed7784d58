import RedisKeeper.Proofs.Node.Membership
import RedisKeeper.Proofs.Topology.Names

/-
A cluster in which nothing fails.

`Site.respond` resolves every pod, runs every command and tells the table of the
membership that the commands have come to.  Each of its runs fits
(`fits_runLogged`), so what is assumed of a cluster can be had for every target
and all addresses that are apart.
-/
namespace RedisKeeper

namespace Node
namespace Site

variable {site : Site} {m : Membership} {own : Nat}

/-- The row of a node with an address and flags that is connected. -/
def record (row : List Char × List Char) : Record :=
  ⟨[['n'], row.1, row.2, ['-'], ['0'], ['0'], ['1'], "connected".toList]⟩

def table (site : Site) (m : Membership) (own : Nat) : Snapshot := ⟨(site.rows m own).map record⟩

def pods (site : Site) : List (Role × Nat) :=
  Role.all.flatMap fun role => (List.range (site.target.replicas role)).map (role, ·)

def respond (site : Site) : Responder interface Membership
  | .resolve pod, m =>
    match site.pods.find? fun place => site.target.pod place.1 place.2 = pod with
    | some place => (.ok (site.address place.1 place.2), m)
    | none => (.error (.notFound pod), m)
  | .execute pod argv, m =>
    let answer : Except Error Output := .ok ⟨"", ""⟩
    (answer, site.after m (executed pod argv answer))
  | .store (.nodes host), m =>
    match (List.range site.target.leaders).find? fun own =>
        (site.address .leader own).host = host with
    | some own => (.ok (site.table m own).toText, m)
    | none => (.error (.failed "no such node"), m)
  | .store (.connect _ _), m | .store (.reset _), m | .store (.flush _), m
  | .store (.close _), m => (.ok (), m)

theorem valid_record {row : List Char × List Char} (h : row ∈ site.rows m own) :
    (record row).Valid := by
  have hflags : ∀ flags ∈ ["myself,master".toList, "master".toList, "slave".toList],
      ' ' ∉ flags ∧ '\n' ∉ flags := by decide
  have hports : ' ' ∉ ":6379@16379".toList ∧ '\n' ∉ ":6379@16379".toList := by decide
  obtain ⟨a, ha⟩ := address_of_mem_rows h
  have haddress : ' ' ∉ row.1 ∧ '\n' ∉ row.1 := by
    rw [ha, Ipv4.rowAddress, List.mem_append, List.mem_append]
    exact ⟨not_or.mpr ⟨Ipv4.not_mem_text (by decide) (by decide) a, hports.1⟩,
      not_or.mpr ⟨Ipv4.not_mem_text (by decide) (by decide) a, hports.2⟩⟩
  refine ⟨?_, List.cons_ne_nil _ _, ?_,
    ⟨['n'], List.mem_cons_self, 'n', List.mem_cons_self, by decide⟩⟩
  · simp only [record, List.forall_mem_cons]
    exact ⟨by decide, haddress, hflags _ (flags_of_mem_rows h), by decide, by decide, by decide,
      by decide, by decide, List.forall_mem_nil _⟩
  · intro last hlast
    rw [← Option.some.inj hlast]
    show "connected".toList.getLast? ≠ some '\r'
    decide

theorem tells_table (site : Site) (m : Membership) (own : Nat) :
    site.Tells m own (site.table m own) where
  valid := by
    intro r hr
    obtain ⟨row, hrow, rfl⟩ := List.mem_map.mp hr
    exact valid_record hrow
  connected := by
    intro r hr
    obtain ⟨row, -, rfl⟩ := List.mem_map.mp hr
    rfl
  perm := by
    have hsame : (fun r : Record => (r.address, r.flags)) ∘ record = id := rfl
    rw [table, List.map_map, hsame, List.map_id]

theorem host_inj (hapart : site.Apart) {own own' : Nat} (hown : own < site.target.leaders)
    (hown' : own' < site.target.leaders)
    (h : (site.address .leader own).host = (site.address .leader own').host) : own = own' := by
  have htext : (site.net .leader own).text = (site.net .leader own').text :=
    String.ofList_injective h
  exact (hapart .leader .leader own own' hown hown' (htext ▸ List.suffix_rfl)).2

/-- Each answer is one that the cluster may give, and what it comes to is kept. -/
theorem answers_respond (hapart : site.Apart) (query : Query) (m : Membership) :
    site.Answers m ⟨query, (site.respond query m).1⟩ ∧
      (site.respond query m).2 = site.after m ⟨query, (site.respond query m).1⟩ := by
  cases query with
  | execute pod argv => exact ⟨trivial, rfl⟩
  | resolve pod =>
    rw [respond]
    split
    · rename_i place hfind
      have hfound := List.find?_some hfind
      rw [decide_eq_true_eq] at hfound
      refine ⟨fun role i hi hpod => ?_, rfl⟩
      obtain ⟨hrole, hindex⟩ := Target.pod_inj (hfound.trans hpod)
      rw [hrole, hindex]
    · exact ⟨trivial, rfl⟩
  | store call =>
    cases call with
    | nodes host =>
      rw [respond]
      split
      · rename_i own hfind
        have hown := List.mem_range.mp (List.mem_of_find?_eq_some hfind)
        have hhost := List.find?_some hfind
        rw [decide_eq_true_eq] at hhost
        refine ⟨fun own' hown' hhost' => ?_, rfl⟩
        obtain rfl := host_inj hapart hown hown' (hhost.trans hhost')
        exact ⟨site.table m own, site.tells_table m own, .inl rfl⟩
      · exact ⟨trivial, rfl⟩
    | connect => exact ⟨trivial, rfl⟩
    | reset => exact ⟨trivial, rfl⟩
    | flush => exact ⟨trivial, rfl⟩
    | close => exact ⟨trivial, rfl⟩

theorem fits_runLogged (hapart : site.Apart) {α : Type} (p : Work α) (m : Membership) :
    site.Fits m (p.runLogged site.respond m).2.1 ∧
      (p.runLogged site.respond m).2.2 = site.afterAll m (p.runLogged site.respond m).2.1 := by
  induction p generalizing m with
  | done a => exact ⟨trivial, rfl⟩
  | ask query next ih =>
    obtain ⟨hanswer, hafter⟩ := answers_respond hapart query m
    rw [Program.runLogged]
    generalize site.respond query m = response at hanswer hafter
    obtain ⟨answer, next⟩ := response
    obtain rfl : next = site.after m ⟨query, answer⟩ := hafter
    obtain ⟨hfits, hlast⟩ := ih answer (site.after m ⟨query, answer⟩)
    exact ⟨⟨hanswer, hfits⟩, hlast⟩

end Site
end Node
end RedisKeeper
