import Mathlib.Data.List.Basic

/-!
# Runs of a transition system

A run is a list of actions that leads from one state to another.  Rules for
invariants and for properties of every step of a run do not depend on what
the states and actions are.
-/

namespace TransitionRuns

variable {State Action : Type*}

/-- The actions lead from the first state to the last. -/
inductive Run (step : State → Action → State → Prop) (start : State) : List Action → State → Prop
  | start : Run step start [] start
  | next {actions : List Action} {state following : State} {action : Action}
      (run : Run step start actions state) (move : step state action following) :
      Run step start (actions ++ [action]) following

/-- A property of every step that a run takes. -/
def EveryStep (step : State → Action → State → Prop)
    (holds : State → Action → State → Prop) (start : State) (actions : List Action) : Prop :=
  ∀ front action back before after, actions = front ++ action :: back →
    Run step start front before → step before action after → holds before action after

/-- A property of every step that a run takes, after the actions before it. -/
def EveryStepAfter (step : State → Action → State → Prop)
    (holds : List Action → State → Action → State → Prop) (start : State)
    (actions : List Action) : Prop :=
  ∀ front action back before after, actions = front ++ action :: back →
    Run step start front before → step before action after → holds front before action after

/-- An action of a run was taken in a state of which something held, after the
actions before it. -/
def Happened (step : State → Action → State → Prop) (start : State) (actions : List Action)
    (holds : List Action → State → Action → Prop) : Prop :=
  ∃ front action back before, actions = front ++ action :: back ∧ Run step start front before ∧
    holds front before action

namespace Happened

variable {step : State → Action → State → Prop} {start : State} {actions : List Action}
variable {holds : List Action → State → Action → Prop}

theorem later (happened : Happened step start actions holds) (next : List Action) :
    Happened step start (actions ++ next) holds := by
  obtain ⟨front, action, back, before, split, run, held⟩ := happened
  exact ⟨front, action, back ++ next, before, by simp [split], run, held⟩

theorem last {state : State} {action : Action} (run : Run step start actions state)
    (held : holds actions state action) : Happened step start (actions ++ [action]) holds :=
  ⟨actions, action, [], state, rfl, run, held⟩

end Happened

namespace Run

variable {step : State → Action → State → Prop} {start state finish : State} {actions : List Action}

theorem single {action : Action} (move : step start action finish) :
    Run step start [action] finish :=
  next Run.start move

theorem eq_start (run : Run step start [] finish) : finish = start := by
  generalize none : ([] : List Action) = actions at run
  cases run with
  | start => rfl
  | next run move => simp at none

/-- Runs compose. -/
theorem append {front back : List Action} (first : Run step start front state)
    (second : Run step state back finish) : Run step start (front ++ back) finish := by
  induction second with
  | start => simpa using first
  | next run move ih =>
    rw [← List.append_assoc]
    exact next ih move

theorem invariant {holds : State → Prop} (initial : holds start)
    (preserved : ∀ state action following, holds state →
      step state action following → holds following)
    (run : Run step start actions finish) : holds finish := by
  induction run with
  | start => exact initial
  | next run move ih => exact preserved _ _ _ ih move

theorem invariant_of_everyStep {holds : State → Prop}
    {condition : State → Action → State → Prop} (initial : holds start)
    (preserved : ∀ state action following, holds state →
      step state action following → condition state action following → holds following)
    (run : Run step start actions finish)
    (meets : EveryStep step condition start actions) : holds finish := by
  induction run with
  | start => exact initial
  | @next actions state following last run move ih =>
    have earlier : holds state := by
      apply ih
      intro front action back before after split
      apply meets front action (back ++ [last])
      rw [split]
      simp
    exact preserved state last following earlier move
      (meets actions last [] state following rfl run move)

/-- A fold is a run of its deterministic steps. -/
theorem of_foldl (perform : State → Action → State) (actions : List Action) (start : State) :
    Run (fun before action after => after = perform before action) start
      actions (actions.foldl perform start) := by
  induction actions generalizing start with
  | nil => exact Run.start
  | cons action actions ih => exact (single rfl).append (ih (perform start action))

/-- Deterministic steps have no other run. -/
theorem eq_foldl {perform : State → Action → State}
    (run : Run (fun before action after => after = perform before action)
      start actions finish) : finish = actions.foldl perform start := by
  induction run with
  | start => rfl
  | next run move ih =>
    rw [List.foldl_append, ← ih, move]
    rfl

end Run

namespace EveryStep

variable {step : State → Action → State → Prop} {start : State} {actions : List Action}

variable {first second : State → Action → State → Prop}

/-- Properties that agree on every step agree along every run. -/
theorem congr (agree : ∀ before action after, step before action after →
      (first before action after ↔ second before action after)) :
    EveryStep step first start actions ↔ EveryStep step second start actions := by
  constructor
  · intro holds front action back before after split run move
    exact (agree before action after move).mp (holds front action back before after split run move)
  · intro holds front action back before after split run move
    exact (agree before action after move).mpr (holds front action back before after split run move)

theorem and_iff : EveryStep step (fun before action after =>
        first before action after ∧ second before action after) start
        actions ↔ EveryStep step first start actions ∧ EveryStep step second start actions := by
  constructor
  · intro both
    exact ⟨fun front action back before after split run move =>
        (both front action back before after split run move).1,
      fun front action back before after split run move =>
        (both front action back before after split run move).2⟩
  · rintro ⟨holdsFirst, holdsSecond⟩ front action back before after split run move
    exact ⟨holdsFirst front action back before after split run move,
      holdsSecond front action back before after split run move⟩

variable {holds : State → Action → State → Prop}

/-- What holds of every step of a run holds of those of its prefixes. -/
theorem of_prefix {front back : List Action}
    (everyStep : EveryStep step holds start (front ++ back)) :
    EveryStep step holds start front := by
  intro front' action back' before after split
  apply everyStep front' action (back' ++ back)
  rw [split]
  simp

/-- What holds of every step of a run holds of those after a prefix. -/
theorem of_suffix {front back : List Action} {middle : State}
    (everyStep : EveryStep step holds start (front ++ back))
    (reached : Run step start front middle) : EveryStep step holds middle back := by
  intro front' action back' before after split run move
  apply everyStep (front ++ front') action back' before after _ (reached.append run) move
  rw [split]
  simp

/-- Any two moments of a run are related where each step relates its two
states. -/
theorem between {related : State → State → Prop} (refl : ∀ state, related state state)
    (trans : ∀ first second third, related first second →
      related second third → related first third)
    (everyStep : EveryStep step (fun before _ after => related before after) start actions)
    {front middle back : List Action} {first second : State}
    (split : actions = front ++ middle ++ back) (reached : Run step start front first)
    (later : Run step first middle second) : related first second := by
  rw [split] at everyStep
  have within := everyStep.of_prefix.of_suffix reached
  refine later.invariant_of_everyStep (refl first) ?_ within
  exact fun before _ after sofar _ here => trans first before after sofar here

/-- A condition on the steps gives a property of the steps through an
invariant of the states. -/
theorem of_invariant {holds : State → Prop} {condition property : State → Action → State → Prop}
    (initial : holds start) (preserved : ∀ state action following, holds state →
      step state action following → condition state action following → holds following)
    (consequence : ∀ state action following, holds state →
      step state action following → condition state action following →
        property state action following) (meets : EveryStep step condition start actions) :
    EveryStep step property start actions := by
  intro front action back before after split run move
  have meetsHere := meets front action back before after split run move
  rw [split] at meets
  exact consequence before action after
    (run.invariant_of_everyStep initial preserved meets.of_prefix) move meetsHere

/-- Properties that agree on the allowed steps from states that keep an
invariant agree along runs of the allowed actions. -/
theorem congr_of_allowed {holds : State → Prop} {allowed : Action → Prop} (initial : holds start)
    (preserved : ∀ state action following, holds state →
      step state action following → allowed action → holds following)
    (agree : ∀ state action following, holds state → step state action following → allowed action →
        (first state action following ↔ second state action following))
    (meets : ∀ action ∈ actions, allowed action) : EveryStep step first start actions ↔
      EveryStep step second start actions := by
  have agreeHere (front back : List Action) (action : Action)
      (before after : State) (split : actions = front ++ action :: back)
      (run : Run step start front before) (move : step before action after) :
      first before action after ↔ second before action after := by
    have allowedFront : EveryStep step (fun _ action _ => allowed action)
        start front := by
      intro front' action' back' _ _ split' _ _
      apply meets
      rw [split, split']
      simp
    refine agree before action after
      (run.invariant_of_everyStep initial preserved allowedFront) move (meets action ?_)
    rw [split]
    simp
  constructor
  · intro holdsFirst front action back before after split run move
    exact (agreeHere front back action before after split run move).mp
      (holdsFirst front action back before after split run move)
  · intro holdsSecond front action back before after split run move
    exact (agreeHere front back action before after split run move).mpr
      (holdsSecond front action back before after split run move)

/-- Properties that agree on the steps from states that keep an invariant
agree along runs of the actions that preserve it. -/
theorem congr_of_invariant {holds : State → Prop} {allowed : Action → Prop} (initial : holds start)
    (preserved : ∀ state action following, holds state →
      step state action following → allowed action → holds following)
    (agree : ∀ state action following, holds state → step state action following →
        (first state action following ↔ second state action following))
    (meets : ∀ action ∈ actions, allowed action) : EveryStep step first start actions ↔
      EveryStep step second start actions :=
  congr_of_allowed initial preserved (fun state action following holds move _ =>
      agree state action following holds move) meets

/-- Where a condition decides whether a step keeps an invariant, it decides
whether a run does. -/
theorem iff_of_invariant {holds : State → Prop} {condition : State → Action → State → Prop}
    (initial : holds start) (decides : ∀ before action after, holds before →
      step before action after → (holds after ↔ condition before action after)) :
    EveryStep step (fun _ _ after => holds after) start actions ↔
      EveryStep step condition start actions := by
  constructor
  · intro kept front action back before after split run move
    have holdsBefore : holds before := by
      rw [split] at kept
      exact run.invariant_of_everyStep initial
        (fun _ _ _ _ _ holdsAfter => holdsAfter) kept.of_prefix
    exact (decides before action after holdsBefore move).mp
      (kept front action back before after split run move)
  · intro meets front action back before after split run move
    have holdsBefore : holds before := by
      apply run.invariant_of_everyStep initial
      · exact fun state action following holds move =>
          (decides state action following holds move).mpr
      · rw [split] at meets
        exact meets.of_prefix
    exact (decides before action after holdsBefore move).mpr
      (meets front action back before after split run move)

/-- Along deterministic steps a property is checked step by step. -/
theorem cons_iff {perform : State → Action → State}
    {holds : State → Action → State → Prop} {action : Action} :
    EveryStep (fun before action after => after = perform before action)
        holds start (action :: actions) ↔ holds start action (perform start action) ∧
        EveryStep (fun before action after => after = perform before action)
          holds (perform start action) actions := by
  constructor
  · intro everyStep
    refine ⟨everyStep [] action actions _ _ rfl Run.start rfl, ?_⟩
    intro front next back before after split run move
    apply everyStep (action :: front) next back before after _ _ move
    · rw [split]
      rfl
    · exact (Run.single rfl).append run
  · rintro ⟨first, later⟩ front next back before after split run move
    cases front with
    | nil =>
      cases split
      cases run.eq_foldl
      rw [move]
      exact first
    | cons head front =>
      rw [List.cons_append, List.cons.injEq] at split
      obtain ⟨rfl, split⟩ := split
      apply later front next back before after split _ move
      rw [run.eq_foldl]
      exact Run.of_foldl perform front _

/-- One more step at the end of a run. -/
theorem concat {finish : State} {action : Action} (everyStep : EveryStep step holds start actions)
    (deterministic : ∀ front first second, Run step start front first →
      Run step start front second → first = second) (run : Run step start actions finish)
    (last : ∀ after, step finish action after → holds finish action after) :
    EveryStep step holds start (actions ++ [action]) := by
  intro front next back before after split reached move
  rcases List.eq_nil_or_concat back with none | ⟨rest, other, rfl⟩
  · rw [none, List.append_cons, List.append_nil] at split
    obtain ⟨rfl, same⟩ := List.append_inj' split rfl
    cases same
    rw [deterministic actions before finish reached run] at move ⊢
    exact last after move
  · rw [List.concat_eq_append, ← List.cons_append, ← List.append_assoc] at split
    exact everyStep front next rest before after (List.append_inj' split rfl).1 reached move

theorem nil {holds : State → Action → State → Prop} :
    EveryStep step holds start ([] : List Action) := by
  intro front action back before after split
  simp at split

/-- A property of the steps of a deterministic run, tested one after the
other. -/
def StepByStep (perform : State → Action → State)
    (holds : State → Action → State → Prop) : State → List Action → Prop
  | _, [] => True
  | state, action :: actions =>
    holds state action (perform state action) ∧
      StepByStep perform holds (perform state action) actions

instance StepByStep.decidable {perform : State → Action → State}
    {holds : State → Action → State → Prop}
    [∀ before action after, Decidable (holds before action after)]
    (state : State) (actions : List Action) : Decidable (StepByStep perform holds state actions) :=
  match actions with
  | [] => .isTrue True.intro
  | action :: actions =>
    have := @StepByStep.decidable perform holds _ (perform state action) actions
    inferInstanceAs (Decidable (_ ∧ _))

theorem of_stepByStep {perform : State → Action → State}
    (steps : StepByStep perform holds start actions) :
    EveryStep (fun before action after => after = perform before action) holds start actions := by
  induction actions generalizing start with
  | nil => exact nil
  | cons action actions ih =>
    rw [cons_iff]
    exact ⟨steps.1, ih steps.2⟩

/-- A property of the states is decided by a condition on the steps, if the
condition keeps an invariant that gives the property, and the property of
the next state gives the condition. -/
theorem iff_of_stronger {holds property : State → Prop}
    {condition : State → Action → State → Prop} (initial : holds start)
    (gives : ∀ state, holds state → property state)
    (preserved : ∀ before action after, holds before →
      step before action after → condition before action after → holds after)
    (needed : ∀ before action after, holds before → step before action after → property after →
        condition before action after) :
    EveryStep step (fun _ _ after => property after) start actions ↔
      EveryStep step condition start actions := by
  constructor
  · intro everyStep
    refine of_invariant initial ?_ needed everyStep
    intro before action after holdsBefore move propertyAfter
    exact preserved before action after holdsBefore move
      (needed before action after holdsBefore move propertyAfter)
  · intro everyStep
    refine of_invariant initial preserved ?_ everyStep
    intro before action after holdsBefore move meets
    exact gives after (preserved before action after holdsBefore move meets)

theorem run_guarded {perform : State → Action → State} {guard : State → Action → Prop}
    (passes : EveryStep (fun before action after =>
      after = perform before action) (fun before action _ => guard before action) start actions) :
    Run (fun before action after => guard before action ∧
      after = perform before action) start actions (actions.foldl perform start) := by
  induction actions generalizing start with
  | nil => exact Run.start
  | cons action actions ih =>
    rw [cons_iff] at passes
    exact (Run.single ⟨passes.1, rfl⟩).append (ih passes.2)

end EveryStep

end TransitionRuns
