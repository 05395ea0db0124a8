import SpendRules.Configuration

namespace SpendRules

/-!
# Sets of rules as sets

A caller asks for rules with a public mask, the configuration drops some of
them, and the rest is kept under inner numbers.  None of this mixes up two
rules: a rule is active exactly when its public bit was set and let through.
Asking for more rules therefore adds those rules and changes no other.
-/

namespace Rule

/-- The public mask of some rules. -/
def maskOf (rules : List Rule) : UInt32 :=
  rules.foldr (fun rule mask => rule.publicMask ||| mask) 0

/-- The rules that only ask for more: each of them lets a spending fail for a
further reason. -/
def restrictions : List Rule :=
  [.strictEncoding, .strictDer, .lowS, .sigPushOnly, .minimalData, .discourageUpgradableNops,
    .cleanStack, .nullFail, .disallowSegwitRecovery, .inputSigChecks, .enforceSigChecks]

/-- The rules under which a locking script can commit to another script. -/
def scriptHashes : List Rule := [.payToScriptHash, .payToScriptHash32]

/-- The rules that give a meaning to two operations reserved for upgrades. -/
def lockTimes : List Rule := [.checkLockTime, .checkSequence]

/-- The rules that let scripts do more: use wider numbers, and ask about the
transaction and about tokens. -/
def upgrades : List Rule := [.integers64, .nativeIntrospection, .tokens]

private theorem and_innerMask (rule other : Rule) :
    rule.innerMask &&& other.innerMask = if rule = other then other.innerMask else 0 := by
  cases rule <;> cases other <;> rfl

private theorem and_publicMask {rule other : Rule} (different : rule ≠ other) :
    rule.publicMask &&& other.publicMask = 0 := by
  cases rule <;> cases other <;> first | rfl | exact (different rfl).elim

private theorem innerMask_ne_zero (rule : Rule) : rule.innerMask ≠ 0 := by
  cases rule <;> decide

private theorem mem_all (rule : Rule) : rule ∈ all := by
  cases rule <;> decide

private theorem or_and_distrib (left right mask : UInt32) :
    (left ||| right) &&& mask = (left &&& mask) ||| (right &&& mask) :=
  UInt32.toBitVec_inj.mp BitVec.and_or_distrib_right

private theorem maskOf_and {rules : List Rule} {rule : Rule} (other : rule ∉ rules) :
    maskOf rules &&& rule.publicMask = 0 := by
  induction rules with
  | nil => exact UInt32.zero_and
  | cons first rules inductionHypothesis =>
      rw [List.mem_cons, not_or] at other
      have unfolded : maskOf (first :: rules) = first.publicMask ||| maskOf rules := rfl
      rw [unfolded, or_and_distrib, and_publicMask (Ne.symm other.1), inductionHypothesis other.2,
        UInt32.or_self]

/-- A mask that asks for some of the given rules asks for no other rule. -/
theorem and_publicMask_eq_zero {added : UInt32} {rules : List Rule} {rule : Rule}
    (within : added &&& maskOf rules = added) (other : rule ∉ rules) :
    added &&& rule.publicMask = 0 := by
  rw [← within, UInt32.and_assoc, maskOf_and other, UInt32.and_zero]

end Rule

namespace RuleSet

/-- Adding one rule to a set adds that rule only. -/
private theorem enables_or_innerMask (mask : UInt32) (added rule : Rule) :
    RuleSet.enables { bits := mask ||| added.innerMask } rule =
      (RuleSet.enables { bits := mask } rule || decide (added = rule)) := by
  unfold enables
  dsimp only
  rw [Rule.or_and_distrib, Rule.and_innerMask]
  by_cases same : added = rule
  · have absorbed : (mask &&& rule.innerMask) ||| rule.innerMask = rule.innerMask := by
      rw [← UInt32.toBitVec_inj]
      exact BitVec.eq_of_getElem_eq (by simp)
    rw [if_pos same, absorbed, beq_self_eq_true, decide_eq_true same, Bool.or_true]
  · rw [if_neg same, UInt32.or_zero, decide_eq_false same, Bool.or_false]

private theorem enables_foldl (flags : UInt32) (rule : Rule) (rules : List Rule) (mask : UInt32) :
    RuleSet.enables { bits := rules.foldl (fun mask other =>
      if flags &&& other.publicMask != 0 then mask ||| other.innerMask else mask) mask } rule =
      (RuleSet.enables { bits := mask } rule ||
        (decide (rule ∈ rules) && flags &&& rule.publicMask != 0)) := by
  induction rules generalizing mask with
  | nil => simp
  | cons first rules inductionHypothesis =>
      rw [List.foldl_cons, inductionHypothesis]
      by_cases same : first = rule
      · subst same
        cases named : (flags &&& first.publicMask != 0) <;> simp [enables_or_innerMask]
      · split <;> simp [enables_or_innerMask, same, Ne.symm same]

/-- A rule is in the set of a public mask exactly when its bit is set. -/
theorem enables_ofFlags (flags : UInt32) (rule : Rule) :
    (ofFlags flags).enables rule = (flags &&& rule.publicMask != 0) := by
  have empty : RuleSet.enables { bits := 0 } rule = false := by
    unfold enables
    rw [UInt32.zero_and, beq_eq_false_iff_ne]
    exact Ne.symm (Rule.innerMask_ne_zero rule)
  refine (enables_foldl flags rule Rule.all 0).trans ?_
  rw [empty, decide_eq_true (Rule.mem_all rule), Bool.false_or, Bool.true_and]

end RuleSet

namespace Configuration

variable (configuration : Configuration)

private theorem enables_activeRules (flags : UInt32) (rule : Rule) :
    (configuration.activeRules flags).enables rule =
      (flags &&& configuration.enabledRules &&& rule.publicMask != 0) :=
  RuleSet.enables_ofFlags _ rule

/-- Two masks together ask for the rules of either one. -/
theorem enables_activeRules_or (flags added : UInt32) (rule : Rule) :
    (configuration.activeRules (flags ||| added)).enables rule =
      ((configuration.activeRules flags).enables rule ||
        (configuration.activeRules added).enables rule) := by
  rw [enables_activeRules, enables_activeRules, enables_activeRules, Rule.or_and_distrib,
    Rule.or_and_distrib]
  apply Bool.eq_iff_iff.mpr
  rw [Bool.or_eq_true, bne_iff_ne, bne_iff_ne, bne_iff_ne, Ne, UInt32.or_eq_zero_iff,
    Decidable.not_and_iff_not_or_not]

/-- A rule whose bit is not set is not active. -/
theorem enables_activeRules_of_unset {flags : UInt32} {rule : Rule}
    (unset : flags &&& rule.publicMask = 0) :
    (configuration.activeRules flags).enables rule = false := by
  rw [enables_activeRules, bne_eq_false_iff_eq, UInt32.and_assoc,
    UInt32.and_comm configuration.enabledRules, ← UInt32.and_assoc, unset, UInt32.zero_and]

/-- A mask that asks for some of the given rules activates no other rule. -/
theorem mem_of_enables_activeRules {added : UInt32} {rules : List Rule} {rule : Rule}
    (within : added &&& Rule.maskOf rules = added)
    (enabled : (configuration.activeRules added).enables rule = true) : rule ∈ rules := by
  apply Decidable.byContradiction
  intro other
  rw [configuration.enables_activeRules_of_unset
    (Rule.and_publicMask_eq_zero within other)] at enabled
  cases enabled

/-- Asking for some of the given rules does not change any other rule. -/
theorem enables_activeRules_or_eq (flags : UInt32) {added : UInt32} {rules : List Rule}
    {rule : Rule} (within : added &&& Rule.maskOf rules = added) (other : rule ∉ rules) :
    (configuration.activeRules (flags ||| added)).enables rule =
      (configuration.activeRules flags).enables rule := by
  have unset := configuration.enables_activeRules_of_unset
    (Rule.and_publicMask_eq_zero within other)
  rw [configuration.enables_activeRules_or, unset, Bool.or_false]

end Configuration

/-!
## Tightening

A set of rules tightens another one when it only adds rules that make it harder
to succeed.  The rules that only ask for more are always of this kind.  A rule
about commitments to scripts is too, as far as a single script is concerned.  A
rule about lock times is, as long as the operation that it gives a meaning to
is let pass without the rule.
-/

/-- The stricter set has the rules of the looser one, and beyond them only
rules that make it harder to succeed. -/
structure RuleSet.Tightens (strict loose : RuleSet) : Prop where
  keeps : forall rule, loose.enables rule = true -> strict.enables rule = true
  adds : forall rule, strict.enables rule = true -> loose.enables rule = true ∨
    rule ∈ Rule.restrictions ∨ rule ∈ Rule.scriptHashes ∨
      (rule ∈ Rule.lockTimes ∧ loose.enables .discourageUpgradableNops = false)

namespace RuleSet.Tightens

variable {strict loose : RuleSet} (tightens : strict.Tightens loose)

include tightens

theorem eq_false_of_eq_false {rule : Rule} (inactive : strict.enables rule = false) :
    loose.enables rule = false := by
  cases active : loose.enables rule with
  | false => rfl
  | true =>
      rw [tightens.keeps rule active] at inactive
      cases inactive

/-- A rule that the stricter set cannot add is active in both sets or in
neither. -/
theorem enables_eq {rule : Rule}
    (other : rule ∉ Rule.restrictions ++ Rule.scriptHashes ++ Rule.lockTimes) :
    strict.enables rule = loose.enables rule := by
  rw [List.mem_append, List.mem_append, not_or, not_or] at other
  cases active : strict.enables rule with
  | false => exact (tightens.eq_false_of_eq_false active).symm
  | true =>
      rcases tightens.adds rule active with kept | restriction | scriptHash | lockTime
      · exact kept.symm
      · exact (other.1.1 restriction).elim
      · exact (other.1.2 scriptHash).elim
      · exact (other.2 lockTime.1).elim

/-- A rule about lock times is only added where its operation would pass. -/
theorem lockTime_eq (rule : Rule) (lockTime : rule ∈ Rule.lockTimes) :
    strict.enables rule = loose.enables rule ∨
      (strict.enables rule = true ∧ loose.enables rule = false ∧
        loose.enables .discourageUpgradableNops = false) := by
  have separate : rule ∉ Rule.restrictions ∧ rule ∉ Rule.scriptHashes := by
    revert lockTime
    cases rule <;> decide
  cases active : strict.enables rule with
  | false => exact Or.inl (tightens.eq_false_of_eq_false active).symm
  | true =>
      cases kept : loose.enables rule with
      | true => exact Or.inl rfl
      | false =>
          rcases tightens.adds rule active with impossible | restriction | scriptHash | added
          · rw [kept] at impossible
            cases impossible
          · exact (separate.1 restriction).elim
          · exact (separate.2 scriptHash).elim
          · exact Or.inr ⟨rfl, rfl, added.2⟩

end RuleSet.Tightens

/-- Asking for further rules of the right kind tightens the active rules. -/
theorem Configuration.tightens_activeRules (configuration : Configuration) {flags added : UInt32}
    (allowed : forall rule, (configuration.activeRules added).enables rule = true ->
      rule ∈ Rule.restrictions ∨ rule ∈ Rule.scriptHashes ∨
        (rule ∈ Rule.lockTimes ∧
          (configuration.activeRules flags).enables .discourageUpgradableNops = false)) :
    (configuration.activeRules (flags ||| added)).Tightens (configuration.activeRules flags) where
  keeps rule active := by
    rw [configuration.enables_activeRules_or, active, Bool.true_or]
  adds rule active := by
    rw [configuration.enables_activeRules_or, Bool.or_eq_true] at active
    rcases active with kept | new
    · exact Or.inl kept
    · exact Or.inr (allowed rule new)

/-!
## Upgrading

A set of rules upgrades another one when it only adds rules that let scripts do
more.
-/

/-- The later set has the rules of the earlier one, and beyond them only
upgrades. -/
structure RuleSet.Upgrades (later earlier : RuleSet) : Prop where
  keeps : forall rule, earlier.enables rule = true -> later.enables rule = true
  same : forall rule, rule ∉ Rule.upgrades -> later.enables rule = earlier.enables rule

/-- Asking for upgrades upgrades the active rules. -/
theorem Configuration.upgrades_activeRules (configuration : Configuration) (flags : UInt32)
    {added : UInt32} (upgrades : added &&& Rule.maskOf Rule.upgrades = added) :
    (configuration.activeRules (flags ||| added)).Upgrades (configuration.activeRules flags) where
  keeps rule active := by
    rw [configuration.enables_activeRules_or, active, Bool.true_or]
  same _ other := configuration.enables_activeRules_or_eq flags upgrades other

end SpendRules
