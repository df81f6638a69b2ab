import Mathlib.Data.List.Induction
import Mathlib.Data.List.Nodup
import Mathlib.Data.List.Perm.Basic
import Mathlib.Data.Nat.Basic
import LabeledSeries.Rule.Record

/-!
# Rules spread over groups

Rules are put into groups one after the other.  What comes of it needs no such history: the shards
that some rule falls on, in ascending order, and for each of them the rules that fall on it, in
their order (`shardRules_eq`).  From this form one can read that no rule is lost and none is put
down twice, that rules of one record name stay together, and that lists of rules which are spread
together give the groups of both, one behind the other (`shardRules_partitions`).
-/

namespace LabeledSeries

/-! ## §1 Putting down one rule -/

/-- The rules of shards after one more was put down. -/
def withRule (shard : Nat) (rule : RecordRule) (members : Nat → List RecordRule) (s : Nat) :
    List RecordRule :=
  if s = shard then members s ++ [rule] else members s

private theorem map_withRule_of_not_mem {listed : List Nat} {shard : Nat} (h : shard ∉ listed)
    (rule : RecordRule) (members : Nat → List RecordRule) :
    listed.map (fun s => (s, withRule shard rule members s)) =
      listed.map fun s => (s, members s) := by
  refine List.map_congr_left fun s hs => ?_
  have hne : s ≠ shard := fun heq => h (heq ▸ hs)
  rw [withRule, if_neg hne]

/-- Where shards are listed with their rules, among them all that have some, a rule is put down at
    its shard, and the others keep theirs. -/
theorem exists_addToShard {listed : List Nat} (hlisted : listed.Pairwise (· < ·)) (shard : Nat)
    (rule : RecordRule) (members : Nat → List RecordRule)
    (hnew : shard ∉ listed → members shard = []) :
    ∃ extended : List Nat, extended.Pairwise (· < ·) ∧
      (∀ s, s ∈ extended ↔ s = shard ∨ s ∈ listed) ∧
      addToShard shard rule (listed.map fun s => (s, members s)) =
        extended.map fun s => (s, withRule shard rule members s) := by
  induction listed with
  | nil => exact ⟨[shard], by simp, by simp, by simp [addToShard, withRule, hnew]⟩
  | cons first rest ih =>
    obtain ⟨hfirst, hrest⟩ := List.pairwise_cons.mp hlisted
    rcases lt_trichotomy shard first with hlt | rfl | hgt
    · -- The shard comes before all that are listed, so it had no rules.
      have hbefore : ∀ s ∈ first :: rest, shard < s := by
        intro s hs
        rcases List.mem_cons.mp hs with rfl | hs
        · exact hlt
        · exact Nat.lt_trans hlt (hfirst s hs)
      have hnot : shard ∉ first :: rest := fun hmem => lt_irrefl _ (hbefore shard hmem)
      refine ⟨shard :: first :: rest, List.pairwise_cons.mpr ⟨hbefore, hlisted⟩, by simp, ?_⟩
      rw [List.map_cons (l := first :: rest), map_withRule_of_not_mem hnot]
      simp [addToShard, hlt, withRule, hnew hnot]
    · have hnot : shard ∉ rest := fun hmem => lt_irrefl _ (hfirst shard hmem)
      refine ⟨shard :: rest, hlisted, by simp, ?_⟩
      rw [List.map_cons, List.map_cons, map_withRule_of_not_mem hnot]
      simp [addToShard, withRule]
    · -- The rule goes to a shard behind the first one.
      have hne : shard ≠ first := ne_of_gt hgt
      obtain ⟨extended, hascending, hmem, hadd⟩ := ih hrest fun hnot => hnew (by simp [hne, hnot])
      refine ⟨first :: extended, List.pairwise_cons.mpr ⟨fun s hs => ?_, hascending⟩, ?_, ?_⟩
      · rcases (hmem s).mp hs with rfl | hs
        · exact hgt
        · exact hfirst s hs
      · intro s
        rw [List.mem_cons, List.mem_cons, hmem]
        tauto
      · rw [List.map_cons, List.map_cons, ← hadd]
        simp [addToShard, not_lt_of_gt hgt, hne, withRule, hne.symm]

/-! ## §2 Groups without history -/

/-- The rules of a list that fall on a shard, as a group. -/
def shardGroup (shards : Nat) (rules : List RecordRule) (shard : Nat) : RuleGroup where
  name := shardName shard
  rules := rules.filter fun rule => rule.shard shards = shard

/-- The shards that some rule falls on, in ascending order. -/
structure AreHit (shards : Nat) (rules : List RecordRule) (hit : List Nat) : Prop where
  ascending : hit.Pairwise (· < ·)
  mem_iff : ∀ shard, shard ∈ hit ↔ ∃ rule ∈ rules, rule.shard shards = shard

theorem AreHit.filter_eq_nil {shards shard : Nat} {rules : List RecordRule} {hit : List Nat}
    (h : AreHit shards rules hit) (hnot : shard ∉ hit) :
    rules.filter (fun rule => rule.shard shards = shard) = [] := by
  simp only [List.filter_eq_nil_iff, decide_eq_true_eq]
  exact fun rule hrule hfalls => hnot ((h.mem_iff shard).mpr ⟨rule, hrule, hfalls⟩)

/-- The induction is on the rules from the end, which is where the next rule is put down. -/
theorem exists_spread (shards : Nat) (rules : List RecordRule) :
    ∃ hit, AreHit shards rules hit ∧
      rules.foldl (fun spread rule => addToShard (rule.shard shards) rule spread) [] =
        hit.map fun shard => (shard, rules.filter fun rule => rule.shard shards = shard) := by
  induction rules using List.reverseRecOn with
  | nil => exact ⟨[], ⟨List.Pairwise.nil, by simp⟩, rfl⟩
  | append_singleton rules rule ih =>
    obtain ⟨hit, hhit, hspread⟩ := ih
    obtain ⟨extended, hascending, hmem, hadd⟩ :=
      exists_addToShard hhit.ascending (rule.shard shards) rule
        (fun shard => rules.filter fun rule => rule.shard shards = shard) hhit.filter_eq_nil
    refine ⟨extended, ⟨hascending, fun shard => ?_⟩, ?_⟩
    · rw [hmem, hhit.mem_iff]
      simp only [List.mem_append, List.mem_singleton, or_and_right, exists_or, exists_eq_left]
      exact or_comm.trans (or_congr_right eq_comm)
    · rw [List.foldl_append, hspread, List.foldl_cons, List.foldl_nil, hadd]
      refine List.map_congr_left fun shard _ => ?_
      rw [List.filter_append, List.filter_singleton]
      by_cases heq : shard = rule.shard shards
      · rw [withRule, if_pos heq, decide_eq_true heq.symm, cond_true]
      · rw [withRule, if_neg heq, decide_eq_false (Ne.symm heq), cond_false, List.append_nil]

theorem shardRules_eq {shards : Nat} (hshards : 0 < shards) (rules : List RecordRule) :
    ∃ hit, AreHit shards rules hit ∧
      shardRules rules shards = .ok (hit.map (shardGroup shards rules)) := by
  obtain ⟨hit, hhit, hspread⟩ := exists_spread shards rules
  refine ⟨hit, hhit, ?_⟩
  simp only [shardRules, if_neg (Nat.ne_of_gt hshards), hspread, List.map_map]
  rfl

/-! ## §3 The groups of a list of rules -/

theorem shardName_inj (s t : Nat) : shardName s = shardName t ↔ s = t := by
  refine ⟨fun h => ?_, congrArg shardName⟩
  have hdigits : s.repr = t.repr := by simpa [shardName] using h
  rw [Nat.repr_eq_ofList_toDigits, Nat.repr_eq_ofList_toDigits, String.ofList_inj] at hdigits
  rw [← Nat.ofDigitChars_ten_toDigits (n := s), hdigits, Nat.ofDigitChars_ten_toDigits]

/-- The parts of a list by the values of a function, which are listed once each. -/
theorem flatMap_filter_perm {α : Type} (value : α → Nat) {values : List Nat}
    (hvalues : values.Nodup) {list : List α} (hmem : ∀ a ∈ list, value a ∈ values) :
    (values.flatMap fun v => list.filter fun a => value a = v).Perm list := by
  induction values generalizing list with
  | nil => simp [List.eq_nil_iff_forall_not_mem.mpr fun a ha => List.not_mem_nil (hmem a ha)]
  | cons first rest ih =>
    obtain ⟨hfirst, hrest⟩ := List.nodup_cons.mp hvalues
    -- The parts behind the first one are those of the list without the first one.
    have hothers : ∀ v ∈ rest, list.filter (fun a => value a = v) =
        (list.filter fun a => !decide (value a = first)).filter fun a => value a = v := by
      intro v hv
      rw [List.filter_filter]
      refine List.filter_congr fun a _ => ?_
      have hne : v ≠ first := fun heq => hfirst (heq ▸ hv)
      by_cases ha : value a = v <;> simp [ha, hne]
    rw [List.flatMap_cons, List.flatMap_congr hothers]
    refine (List.Perm.append_left _ (ih hrest fun a ha => ?_)).trans
      (List.filter_append_perm _ list)
    obtain ⟨ha, hne⟩ := List.mem_filter.mp ha
    exact (List.mem_cons.mp (hmem a ha)).resolve_left (by simpa using hne)

/-- The rules of the group of a shard, of which there are none without such a group. -/
def rulesOf (groups : List RuleGroup) (shard : Nat) : List RecordRule :=
  ((groups.find? fun group => group.name = shardName shard).map RuleGroup.rules).getD []

theorem AreHit.rulesOf_groups {shards : Nat} {rules : List RecordRule} {hit : List Nat}
    (h : AreHit shards rules hit) (shard : Nat) :
    rulesOf (hit.map (shardGroup shards rules)) shard =
      rules.filter fun rule => rule.shard shards = shard := by
  have hfind :
      (hit.map (shardGroup shards rules)).find? (fun group => group.name = shardName shard) =
        (hit.find? fun s => s = shard).map (shardGroup shards rules) := by
    have hname : (fun group : RuleGroup => decide (group.name = shardName shard)) ∘
        shardGroup shards rules = fun s => decide (s = shard) :=
      funext fun s => decide_eq_decide.mpr (shardName_inj s shard)
    rw [List.find?_map, hname]
  rw [rulesOf, hfind]
  cases hfound : hit.find? fun s => s = shard with
  | none =>
    have hnot : shard ∉ hit := fun hmem => by simpa using List.find?_eq_none.mp hfound shard hmem
    rw [h.filter_eq_nil hnot]
    rfl
  | some s =>
    have heq : s = shard := by simpa using List.find?_some hfound
    subst heq
    rfl

theorem AreHit.flatMap_perm {shards : Nat} {rules : List RecordRule} {hit : List Nat}
    (h : AreHit shards rules hit) :
    ((hit.map (shardGroup shards rules)).flatMap RuleGroup.rules).Perm rules := by
  rw [List.flatMap_map]
  refine flatMap_filter_perm (RecordRule.shard shards)
    (h.ascending.imp Nat.ne_of_lt) fun rule hrule => ?_
  exact (h.mem_iff _).mpr ⟨rule, hrule, rfl⟩

/-- **Rules are spread over groups in order**: the shards that some rule falls on are listed in
    ascending order, each with the group of the rules that fall on it, in their order.  So no group
    is empty, the groups have different names, together they hold every rule as often as it was
    given, rules of one record name are in one group, and of two lists that are spread together each
    shard has the rules of the first and then those of the second. -/
theorem shardRules_partitions {shards : Nat} (hshards : 0 < shards) (rules : List RecordRule) :
    ∃ (hit : List Nat) (groups : List RuleGroup), shardRules rules shards = .ok groups ∧
      groups = hit.map (shardGroup shards rules) ∧ hit.Pairwise (· < ·) ∧
      (∀ shard ∈ hit, shard < shards) ∧
      (∀ shard, shard ∈ hit ↔ ∃ rule ∈ rules, rule.shard shards = shard) ∧
      (∀ group ∈ groups, group.rules ≠ []) ∧ (groups.map RuleGroup.name).Nodup ∧
      (groups.flatMap RuleGroup.rules).Perm rules ∧
      (∀ group ∈ groups, ∀ rule ∈ group.rules, ∀ other ∈ rules, other.record = rule.record →
        other ∈ group.rules) ∧
      ∀ others, ∃ further both, shardRules others shards = .ok further ∧
        shardRules (rules ++ others) shards = .ok both ∧
        ∀ shard, rulesOf both shard = rulesOf groups shard ++ rulesOf further shard := by
  obtain ⟨hit, hhit, hrules⟩ := shardRules_eq hshards rules
  refine ⟨hit, _, hrules, rfl, hhit.ascending, fun shard hmem => ?_, hhit.mem_iff, ?_, ?_,
    hhit.flatMap_perm, ?_, fun others => ?_⟩
  · obtain ⟨rule, -, rfl⟩ := (hhit.mem_iff shard).mp hmem
    exact Nat.mod_lt _ hshards
  · -- A shard is listed because of a rule, which is in its group.
    intro group hgroup
    obtain ⟨shard, hmem, rfl⟩ := List.mem_map.mp hgroup
    obtain ⟨rule, hrule, hshard⟩ := (hhit.mem_iff shard).mp hmem
    exact List.ne_nil_of_mem (List.mem_filter.mpr ⟨hrule, decide_eq_true hshard⟩)
  · rw [List.map_map]
    exact List.pairwise_map.mpr
      (hhit.ascending.imp fun hlt hname => Nat.ne_of_lt hlt ((shardName_inj _ _).mp hname))
  · -- The shard of a rule depends on its record name alone.
    intro group hgroup rule hrule other hother hrecord
    obtain ⟨shard, -, rfl⟩ := List.mem_map.mp hgroup
    have hshard : rule.shard shards = shard := of_decide_eq_true (List.mem_filter.mp hrule).2
    refine List.mem_filter.mpr ⟨hother, decide_eq_true ?_⟩
    rw [← hshard, RecordRule.shard, RecordRule.shard, hrecord]
  · obtain ⟨hit', hhit', hothers⟩ := shardRules_eq hshards others
    obtain ⟨hit'', hhit'', hboth⟩ := shardRules_eq hshards (rules ++ others)
    refine ⟨_, _, hothers, hboth, fun shard => ?_⟩
    rw [hhit.rulesOf_groups, hhit'.rulesOf_groups, hhit''.rulesOf_groups, List.filter_append]

/-- Two rules on one shard, with one on another shard between them, and a shard of two digits. -/
theorem shardRules_partitions_over_twelve :
    let rule (record : String) : RecordRule := ⟨record, "up", [], .empty⟩
    let rules := [rule "job:up", rule "cpu", rule "a", rule "mem"]
    let groups : List RuleGroup := [⟨"meta_metrics_2", [rule "cpu", rule "mem"]⟩,
      ⟨"meta_metrics_3", [rule "a"]⟩, ⟨"meta_metrics_10", [rule "job:up"]⟩]
    0 < 12 ∧ shardRules rules 12 = .ok groups ∧ (groups.flatMap RuleGroup.rules).Perm rules ∧
      (groups.map RuleGroup.name).Nodup := by
  intro rule rules groups
  have hpositive : 0 < 12 := by decide
  have hjob : (rule "job:up").shard 12 = 10 := by decide +kernel
  have hcpu : (rule "cpu").shard 12 = 2 := by decide +kernel
  have ha : (rule "a").shard 12 = 3 := by decide +kernel
  have hmem : (rule "mem").shard 12 = 2 := by decide +kernel
  have htexts : shardName 2 = "meta_metrics_2" ∧ shardName 3 = "meta_metrics_3" ∧
      shardName 10 = "meta_metrics_10" := by decide +kernel
  have hgroups : shardRules rules 12 = .ok groups := by
    simp [shardRules, rules, groups, hjob, hcpu, ha, hmem, addToShard, htexts]
  obtain ⟨_, _, hrules, -, -, -, -, -, hnames, hperm, -⟩ := shardRules_partitions hpositive rules
  rw [hgroups] at hrules
  cases hrules
  exact ⟨hpositive, hgroups, hperm, hnames⟩

end LabeledSeries
