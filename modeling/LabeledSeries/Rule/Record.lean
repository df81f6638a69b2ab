import LabeledSeries.Fault
import LabeledSeries.Text.Blank
import LabeledSeries.Encoding.Checksum

/-!
# Recording rules

A rule records the vector of an expression under a name of its own: the rows pass through the rule's
filters, and those that stay get the record's name and the rule's labels.

## §1 Rules

A stored rule may be anything; a `RecordingRule` is one that passed validation.

## §2 Groups

Rules are evaluated in named groups, and a collection of groups shares an identifier and tags.

## §3 Shards

Rules are spread over a number of groups by the checksum of their record names, so that a rule stays
in its group whatever else is spread.
-/

namespace LabeledSeries

/-! ## §1 Rules -/

/-- A rule as it is stored. -/
structure RecordRule where
  record : String
  expr : String
  filters : List String
  labels : Labels
  deriving Repr, DecidableEq

/-- Fault a rule without a proper record name or without an expression. -/
def RecordRule.validate (rule : RecordRule) : Except Fault Unit :=
  if rule.record = "" then .error (.invalidRule .emptyRecord)
  else if !Text.isRecordName rule.record then .error (.invalidRule (.badRecord rule.record))
  else if Text.trim rule.expr = "" then .error (.invalidRule (.emptyExpression rule.record))
  else .ok ()

/-- A rule that can be evaluated. -/
structure RecordingRule where
  rule : RecordRule
  valid : rule.validate = .ok ()

/-- The rule to evaluate for a stored one, if that is valid. -/
def RecordRule.check (rule : RecordRule) : Except Fault RecordingRule :=
  match h : rule.validate with
  | .ok () => .ok ⟨rule, h⟩
  | .error fault => .error fault

/-! ## §2 Groups -/

/-- The label that marks derived series, and its value. -/
def derivedLabel : String := "mtype"

/-- The value of the label that marks derived series. -/
def derivedValue : String := "sys"

/-- Rules that are evaluated together. -/
structure RuleGroup where
  name : String
  rules : List RecordRule
  deriving Repr, DecidableEq

/-- Groups of rules with what they share. -/
structure NamedGroups where
  id : String
  tags : NameMap String
  groups : List RuleGroup
  deriving Repr, DecidableEq

/-- A rule that marks what it records as derived. -/
def RecordRule.markDerived (rule : RecordRule) : RecordRule :=
  { rule with labels := rule.labels.insert derivedLabel derivedValue }

/-- Groups all rules of which mark what they record as derived. -/
def NamedGroups.markDerived (named : NamedGroups) : NamedGroups :=
  { named with groups := named.groups.map fun group =>
      { group with rules := group.rules.map RecordRule.markDerived } }

/-! ## §3 Shards -/

/-- The shard of a rule among a number of shards. -/
def RecordRule.shard (shards : Nat) (rule : RecordRule) : Nat :=
  Encoding.textChecksum rule.record % shards

/-- The name of the group of a shard. -/
def shardName (shard : Nat) : String := s!"meta_metrics_{shard}"

/-- Put a rule at the end of its shard in a list of shards in ascending order. -/
def addToShard (shard : Nat) (rule : RecordRule) :
    List (Nat × List RecordRule) → List (Nat × List RecordRule)
  | [] => [(shard, [rule])]
  | (other, rules) :: rest =>
    if shard < other then (shard, [rule]) :: (other, rules) :: rest
    else if shard = other then (other, rules ++ [rule]) :: rest
    else (other, rules) :: addToShard shard rule rest

/-- The groups of a list of rules over a number of shards, in the order of the shards; shards
    without rules have no group. -/
def shardRules (rules : List RecordRule) (shards : Nat) : Except Fault (List RuleGroup) :=
  if shards = 0 then .error (.invalidParameters "shard_rules" .noShards)
  else
    let spread := rules.foldl (fun spread rule => addToShard (rule.shard shards) rule spread) []
    .ok (spread.map fun (shard, rules) => { name := shardName shard, rules })

end LabeledSeries
