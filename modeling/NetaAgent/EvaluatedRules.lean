import NetaAgent.ContextRules
import NetaAgent.ProcessFindingEngine
import NetaAgent.RuleCanonical

/-!
The rule sets that the loader returns, and the evaluators that read their parameters.
-/

namespace NetaAgent.Processes

open Decimal NumberText Rules Sql Verdict ContextRules List Triple

section Engine
variable {undefined : Conversion} {rules : RuleSet} {d : RuleDefinition}

lemma severityFromString_reads {severity : Text} (h : severity ∈ severities) :
    Reads (severityFromString severity) := by
  have hall : (severities.all fun s => (severityFromString s).toOption.isSome) = true := by
    decide +kernel
  have hsome := all_eq_true.mp hall severity h
  cases hs : severityFromString severity with
  | ok s => exact ⟨s, rfl⟩
  | error e =>
    rw [hs] at hsome
    cases hsome

lemma usableRule_of_admitted (h : Admitted undefined d) : UsableRule d := by
  refine ⟨severityFromString_reads h.severity,
    fun hid => ⟨h.stringList hid ?_, h.stringList hid ?_⟩,
    fun hid => ⟨h.stringList hid ?_, h.stringList hid ?_⟩, fun hid => h.stringList hid ?_,
    fun hid => ⟨h.numeric hid ?_, h.numeric hid ?_⟩,
    fun hid => ⟨h.numeric hid ?_, h.numeric hid ?_, h.numeric hid ?_⟩⟩
  all_goals simp only [evaluatedParameters, mem_cons, true_or, or_true]

lemma required_usable (h : AdmittedSet undefined rules) {id : Text} (hid : id ∈ rm1DefaultIds) :
    ∃ d, rules.rule id = .ok d ∧ d.engineRuleId = id ∧ UsableRule d := by
  obtain ⟨d, hd, hengine, hrule⟩ := h.rule_required hid
  exact ⟨d, hrule, hengine, usableRule_of_admitted (h.definitions d hd)⟩

lemma bind_gives {α β : Type} {r : Except Text α} {k : α → Except Text β} {P : β → Prop} {a : α}
    (hr : r = .ok a) (hk : ∃ b, k a = .ok b ∧ P b) : ∃ b, (r >>= k) = .ok b ∧ P b := by
  rw [hr]
  exact hk

/-- The configuration is read from an admitted set, with severities that are known. -/
lemma configFromRules_usable (h : AdmittedSet undefined rules) {custom : List RuleDefinition}
    (hcustom : ∀ d ∈ custom, d ∈ rules.definitions) :
    ∃ config, configFromRules undefined rules = .ok config ∧ Usable config custom := by
  have hin : (["PROC-001", "PROC-002", "PROC-003", "PROC-004", "PROC-005"] : List Text) ⊆
      rm1DefaultIds := by
    simp only [rm1DefaultIds, cons_subset, mem_cons, true_or, or_true, nil_subset, and_self]
  simp only [cons_subset] at hin
  obtain ⟨transient, htransient, hid, hu1⟩ := required_usable h hin.1
  obtain ⟨⟨prefixes, hprefixes⟩, ⟨substrings, hsubstrings⟩⟩ := hu1.transient hid
  refine bind_gives htransient (bind_gives hprefixes (bind_gives hsubstrings ?_))
  obtain ⟨shell, hshell, hid, hu2⟩ := required_usable h hin.2.1
  obtain ⟨⟨shells, hshells⟩, ⟨parents, hparents⟩⟩ := hu2.shell hid
  refine bind_gives hshell (bind_gives hshells (bind_gives hparents ?_))
  obtain ⟨elevation, helevation, hid, hu3⟩ := required_usable h hin.2.2.1
  obtain ⟨elevated, helevated⟩ := hu3.elevation hid
  refine bind_gives helevation (bind_gives helevated ?_)
  obtain ⟨fanout, hfanout, hid, hu4⟩ := required_usable h hin.2.2.2.1
  obtain ⟨⟨window, hwindow⟩, ⟨count, hcount⟩⟩ := hu4.fanout hid
  refine bind_gives hfanout (bind_gives hcount (bind_gives hwindow ?_))
  obtain ⟨burst, hburst, hid, hu5⟩ := required_usable h hin.2.2.2.2.1
  obtain ⟨⟨lifetime, hlifetime⟩, ⟨window', hwindow'⟩, ⟨count', hcount'⟩⟩ := hu5.burst hid
  refine bind_gives hburst (bind_gives hcount' (bind_gives hlifetime (bind_gives hwindow' ?_)))
  exact ⟨_, rfl, hu1.severity, hu2.severity, hu3.severity, hu4.severity, hu5.severity,
    fun d hd => usableRule_of_admitted (h.definitions d (hcustom d hd))⟩

lemma build_usable (h : AdmittedSet undefined rules) :
    ∃ engine, Engine.build undefined rules = .ok engine ∧
      Usable engine.config engine.customProcessRules := by
  obtain ⟨config, hconfig, husable⟩ := configFromRules_usable h
    (fun d hd => mem_of_mem_filter hd)
  exact bind_gives hconfig ⟨_, rfl, husable⟩

end Engine

section Calls
variable {undefined : Conversion} {config : ProcessFindingConfig} {custom : List RuleDefinition}

/-- **Usable rules observe every sequence of events.** -/
lemma observeAll_returns (husable : Usable config custom)
    (calls : List (ProcessExecEvent × List ProcessNode)) :
    Triple (fun _ => True) (HasRules config custom) (observeAll undefined calls)
      (fun _ => HasRules config custom) fun _ _ => False := by
  induction calls with
  | nil => exact pure fun _ hd => hd
  | cons call calls ih =>
    refine bind (Q := fun _ => HasRules config custom) ?_ fun found => ?_
    · refine conseq observes_observe (fun _ hd => hd) (fun _ _ hd => hd.1) ?_
      exact fun _ _ hunusable => hunusable husable
    · exact bind ih fun rest => pure fun _ hd => hd

end Calls

/-- **What the loader returns can be evaluated**: the engine of process findings is built and
observes every sequence of events and every snapshot, the rules on connections are evaluated on
every context, and every definition is found under its id. -/
theorem loaded_rules_evaluated {undefined : Conversion} {text source : Text} {rules : RuleSet}
    (h : loadText undefined text source = .ok rules) (ratioAtLeast : ℕ → ℕ → Double → Bool) :
    (∃ engine, Engine.build undefined rules = .ok engine ∧
      (∀ o calls, Reads (exec (observeAll undefined calls) o engine).1) ∧
      ∀ nodes, Reads (engine.evaluateSnapshot nodes)) ∧
    (∀ context, Reads (evaluate undefined ratioAtLeast context rules)) ∧
    ∀ d ∈ rules.definitions, rules.rule d.id = .ok d := by
  have hadmitted := (loadText_ok h).2
  obtain ⟨engine, hengine, husable⟩ := build_usable hadmitted
  refine ⟨⟨engine, hengine, fun o calls => ?_, fun nodes => ?_⟩, fun context => ?_, fun d hd => ?_⟩
  · rcases (observeAll_returns husable calls).exec (o := o) (fun _ _ _ => trivial) ⟨rfl, rfl⟩
      with ⟨found, hfound, -⟩ | ⟨_, -, hfalse⟩
    · exact ⟨found, hfound⟩
    · exact hfalse.elim
  · exact (makes_evaluateNodes fun n hn => hn).2 husable
  · exact evaluateAll_reads hadmitted.definitions
  · exact hadmitted.rule_id hd

/-- A document with the required rules. -/
theorem loaded_rules_evaluated_sample :
    ∃ rules, sampleLoad ['"', 'a', '"'] = .ok rules ∧
      (∃ engine, Engine.build sampleMachine.undefined rules = .ok engine) ∧
      Reads (evaluate sampleMachine.undefined (fun _ _ _ => false) {} rules) ∧
      ∀ d ∈ rules.definitions, rules.rule d.id = .ok d := by
  have hload : (sampleLoad ['"', 'a', '"']).toOption.isSome = true := by
    unfold sampleLoad sampleDocument documentHead documentTail
    repeat rw [flatMap_literal]
    decide +kernel
  cases hrules : sampleLoad ['"', 'a', '"'] with
  | error e =>
    rw [hrules] at hload
    cases hload
  | ok rules =>
    obtain ⟨⟨engine, hengine, -⟩, hcontexts, hids⟩ :=
      loaded_rules_evaluated hrules fun _ _ _ => false
    exact ⟨rules, rfl, ⟨engine, hengine⟩, hcontexts {}, hids⟩

end NetaAgent.Processes
