import Se05x.Interaction.Contract

/-!
# Procedures with locals and jumps

The body of a C function reads and writes its locals, calls the environment, and may
leave its straight path for a label.
-/

set_option autoImplicit false

namespace Interaction

abbrev Procedure (I : Interface) (Locals Jump Value : Type) :=
  ExceptT Jump (StateT Locals (Program I)) Value

namespace Procedure

variable {I : Interface} {Locals Jump Value Next State : Type} {contract : Contract I State}

def call (request : I.Call) : Procedure I Locals Jump (I.Answer request) :=
  ExceptT.lift (StateT.lift (Program.issue request))

/-- Call another function. -/
def invoke (program : Program I Value) : Procedure I Locals Jump Value :=
  ExceptT.lift (StateT.lift program)

/-- The outcome of a body and the locals it leaves. -/
def start (body : Procedure I Locals Jump Value) (locals : Locals) :
    Program I (Except Jump Value × Locals) :=
  (ExceptT.run body).run locals

/-- The body up to a label that follows it: jumping there is going on behind the body. -/
def upTo [DecidableEq Jump] (label : Jump) (body : Procedure I Locals Jump Unit) :
    Procedure I Locals Jump Unit :=
  tryCatch body fun other => if other = label then pure () else throw other

/-- The body up to its end, where every jump out of it leads. -/
def toEnd (body : Procedure I Locals Jump Unit) : Procedure I Locals Jump Unit :=
  tryCatch body fun _ => pure ()

def wp (contract : Contract I State) (body : Procedure I Locals Jump Value)
    (post : Except Jump Value → Locals → State → Prop) (locals : Locals) (state : State) : Prop :=
  (body.start locals).wp contract (fun result => post result.1 result.2) state

variable {post : Except Jump Value → Locals → State → Prop} {locals : Locals} {state : State}

theorem wp_start {body : Procedure I Locals Jump Value}
    {ends : Except Jump Value × Locals → State → Prop} :
    (body.start locals).wp contract ends state ↔
      body.wp contract (fun outcome locals => ends (outcome, locals)) locals state := Iff.rfl

@[simp] theorem wp_pure {value : Value} :
    wp contract (pure value : Procedure I Locals Jump Value) post locals state ↔
      post (.ok value) locals state := Iff.rfl

@[simp] theorem wp_throw {label : Jump} :
    wp contract (throw label : Procedure I Locals Jump Value) post locals state ↔
      post (.error label) locals state := Iff.rfl

@[simp] theorem wp_bind {body : Procedure I Locals Jump Next}
    {continuation : Next → Procedure I Locals Jump Value} :
    wp contract (body >>= continuation) post locals state ↔
      body.wp contract (fun outcome after => match outcome with
        | .ok value => (continuation value).wp contract post after
        | .error label => post (.error label) after) locals state := by
  have shape : (body >>= continuation).start locals = body.start locals >>= fun result =>
      match result.1 with
      | .ok value => (continuation value).start result.2
      | .error label => Program.done (.error label, result.2) := by
    refine congrArg (Program.bind (body.start locals)) (funext fun result => ?_)
    cases result with
    | mk outcome after => cases outcome <;> rfl
  rw [wp, shape, Program.wp_bind, wp_start]
  refine iff_of_eq (congrArg (fun ends => body.wp contract ends locals state) ?_)
  funext outcome after reached
  cases outcome <;> rfl

@[simp] theorem wp_call {request : I.Call}
    {post : Except Jump (I.Answer request) → Locals → State → Prop} :
    wp contract (call request) post locals state ↔
      contract.allows state request ∧
        ∀ answer after, contract.moves state ⟨request, answer⟩ after →
          post (.ok answer) locals after := Iff.rfl

theorem wp_invoke {program : Program I Value} :
    wp contract (invoke program : Procedure I Locals Jump Value) post locals state ↔
      program.wp contract (fun value => post (.ok value) locals) state := by
  have shape : (invoke program : Procedure I Locals Jump Value).start locals =
      program >>= fun value => Program.done (.ok value, locals) := by
    induction program with
    | done value => rfl
    | call request next ih => exact congrArg _ (funext ih)
  rw [wp, shape, Program.wp_bind]
  rfl

@[simp] theorem wp_get {post : Except Jump Locals → Locals → State → Prop} :
    wp contract (get : Procedure I Locals Jump Locals) post locals state ↔
      post (.ok locals) locals state := Iff.rfl

@[simp] theorem wp_modify {update : Locals → Locals}
    {post : Except Jump Unit → Locals → State → Prop} :
    wp contract (modify update : Procedure I Locals Jump Unit) post locals state ↔
      post (.ok ()) (update locals) state := Iff.rfl

@[simp] theorem wp_upTo [DecidableEq Jump] {label : Jump} {body : Procedure I Locals Jump Unit}
    {post : Except Jump Unit → Locals → State → Prop} :
    wp contract (body.upTo label) post locals state ↔
      body.wp contract (fun outcome after => match outcome with
        | .ok () => post (.ok ()) after
        | .error other => if other = label then post (.ok ()) after else post (.error other) after)
        locals state := by
  have shape : (body.upTo label).start locals = body.start locals >>= fun result =>
      match result.1 with
      | .ok () => Program.done (.ok (), result.2)
      | .error other =>
        if other = label then Program.done (.ok (), result.2)
        else Program.done (.error other, result.2) := by
    refine congrArg (Program.bind (body.start locals)) (funext fun result => ?_)
    obtain ⟨outcome, after⟩ := result
    cases outcome with
    | ok => rfl
    | error other =>
        by_cases here : other = label
        · simp only [here, ↓reduceIte]
          rfl
        · simp only [here, ↓reduceIte]
          rfl
  rw [wp, shape, Program.wp_bind, wp_start]
  refine iff_of_eq (congrArg (fun ends => body.wp contract ends locals state) ?_)
  funext outcome after reached
  cases outcome with
  | ok => rfl
  | error other =>
      by_cases here : other = label
      · simp only [here, ↓reduceIte, Program.wp_done]
      · simp only [here, ↓reduceIte, Program.wp_done]

@[simp] theorem wp_toEnd {body : Procedure I Locals Jump Unit}
    {post : Except Jump Unit → Locals → State → Prop} :
    wp contract body.toEnd post locals state ↔
      body.wp contract (fun _ => post (.ok ())) locals state := by
  have shape : body.toEnd.start locals = body.start locals >>= fun result =>
      Program.done (.ok (), result.2) := by
    refine congrArg (Program.bind (body.start locals)) (funext fun result => ?_)
    obtain ⟨outcome, after⟩ := result
    cases outcome <;> rfl
  rw [wp, shape, Program.wp_bind, wp_start]
  rfl

theorem wp_liftExcept {outcome : Except Jump Value} :
    wp contract (liftExcept outcome : Procedure I Locals Jump Value) post locals state ↔
      post outcome locals state := by
  cases outcome <;> rfl

theorem wp_mono {body : Procedure I Locals Jump Value}
    {weak strong : Except Jump Value → Locals → State → Prop}
    (met : body.wp contract strong locals state)
    (weaker : ∀ outcome after reached, strong outcome after reached → weak outcome after reached) :
    body.wp contract weak locals state :=
  Program.wp_mono met fun _ _ => weaker _ _ _

/-- Entered where one condition holds, the body ends where another does, or is left by a jump
where what its label asks for holds. -/
def Carries (contract : Contract I State) (left : Jump → Locals → State → Prop)
    (pre : Locals → State → Prop) (ends : Value → Locals → State → Prop)
    (body : Procedure I Locals Jump Value) : Prop :=
  ∀ locals state, pre locals state → body.wp contract (fun outcome => match outcome with
    | .ok value => ends value
    | .error label => left label) locals state

abbrev Keeps (contract : Contract I State) (left : Jump → Locals → State → Prop)
    (invariant : Locals → State → Prop) (body : Procedure I Locals Jump Value) : Prop :=
  Carries contract left invariant (fun _ => invariant) body

section Triples

variable {left : Jump → Locals → State → Prop} {pre invariant : Locals → State → Prop}
  {ends : Value → Locals → State → Prop} {body : Procedure I Locals Jump Value}

theorem Carries.weaken {weaker : Value → Locals → State → Prop}
    (carried : Carries contract left pre ends body)
    (weakens : ∀ value locals state, ends value locals state → weaker value locals state) :
    Carries contract left pre weaker body := by
  intro locals state entered
  refine wp_mono (carried locals state entered) ?_
  intro outcome after reached met
  cases outcome with
  | ok value => exact weakens value after reached met
  | error label => exact met

theorem Carries.entering {stronger : Locals → State → Prop}
    (carried : Carries contract left pre ends body)
    (entails : ∀ locals state, stronger locals state → pre locals state) :
    Carries contract left stronger ends body :=
  fun locals state entered => carried locals state (entails locals state entered)

theorem Carries.bind {middle : Value → Locals → State → Prop}
    {ends : Next → Locals → State → Prop} {continuation : Value → Procedure I Locals Jump Next}
    (first : Carries contract left pre middle body)
    (rest : ∀ value, Carries contract left (middle value) ends (continuation value)) :
    Carries contract left pre ends (body >>= continuation) := by
  intro locals state entered
  rw [wp_bind]
  refine wp_mono (first locals state entered) ?_
  intro outcome after reached met
  cases outcome with
  | ok value => exact rest value after reached met
  | error label => exact met

theorem Carries.ite {condition : Prop} [Decidable condition]
    {other : Procedure I Locals Jump Value} (yes : condition → Carries contract left pre ends body)
    (no : ¬condition → Carries contract left pre ends other) :
    Carries contract left pre ends (if condition then body else other) := by
  by_cases met : condition
  · rw [if_pos met]
    exact yes met
  · rw [if_neg met]
    exact no met

theorem Carries.jumping {label : Jump}
    (allowed : ∀ locals state, pre locals state → left label locals state) :
    Carries contract left pre ends (throw label : Procedure I Locals Jump Value) :=
  allowed

theorem Carries.writing {update : Locals → Locals} {ends : Unit → Locals → State → Prop}
    (becomes : ∀ locals state, pre locals state → ends () (update locals) state) :
    Carries contract left pre ends (modify update : Procedure I Locals Jump Unit) :=
  becomes

/-- What is read are the locals the body is entered with. -/
theorem Carries.inspecting {continuation : Locals → Procedure I Locals Jump Value}
    (rest : ∀ locals state, pre locals state → (continuation locals).wp contract
      (fun outcome => match outcome with
        | .ok value => ends value
        | .error label => left label) locals state) :
    Carries contract left pre ends (get >>= continuation) :=
  fun locals state entered => wp_bind.mpr (rest locals state entered)

theorem Carries.reading {continuation : Locals → Procedure I Locals Jump Value}
    (rest : ∀ locals, Carries contract left pre ends (continuation locals)) :
    Carries contract left pre ends (get >>= continuation) :=
  .inspecting fun locals state entered => rest locals locals state entered

theorem Carries.upTo [DecidableEq Jump] {inner : Jump → Locals → State → Prop} {label : Jump}
    {ends : Unit → Locals → State → Prop} {body : Procedure I Locals Jump Unit}
    (carried : Carries contract inner pre ends body)
    (landing : ∀ locals state, inner label locals state → ends () locals state)
    (passing : ∀ other, other ≠ label → ∀ locals state, inner other locals state →
      left other locals state) :
    Carries contract left pre ends (body.upTo label) := by
  intro locals state entered
  rw [wp_upTo]
  refine wp_mono (carried locals state entered) ?_
  intro outcome after reached met
  cases outcome with
  | ok => exact met
  | error other =>
      by_cases here : other = label
      · subst here
        simpa only [↓reduceIte] using landing after reached met
      · simpa only [here, ↓reduceIte] using passing other here after reached met

/-- A fact about values known beforehand may be used by the body. -/
theorem Carries.given {fact : Prop} (carried : fact → Carries contract left pre ends body) :
    Carries contract left (fun locals state => fact ∧ pre locals state) ends body :=
  fun locals state entered => carried entered.1 locals state entered.2

theorem Carries.unpacking {Index : Type} {entering : Index → Locals → State → Prop}
    (carried : ∀ index, Carries contract left (entering index) ends body) :
    Carries contract left (fun locals state => ∃ index, entering index locals state) ends body := by
  intro locals state entered
  obtain ⟨index, met⟩ := entered
  exact carried index locals state met

theorem Carries.returning {value : Value}
    (becomes : ∀ locals state, pre locals state → ends value locals state) :
    Carries contract left pre ends (pure value : Procedure I Locals Jump Value) :=
  becomes

theorem Carries.forM {Entry : Type} {table : List Entry} {body : Entry → Procedure I Locals Jump Unit}
    (each : ∀ entry ∈ table, Keeps contract left invariant (body entry)) :
    Keeps contract left invariant (table.forM body) := by
  induction table with
  | nil => exact .returning fun _ _ kept => kept
  | cons entry table ih =>
      exact .bind (each entry List.mem_cons_self) fun _ =>
        ih fun other member => each other (List.mem_cons_of_mem _ member)

/-- A loop over an index: each round carries what holds after so many rounds one further. -/
theorem Carries.range (holds : Nat → Locals → State → Prop) {count : Nat}
    {body : Nat → Procedure I Locals Jump Unit}
    (each : ∀ i < count, Carries contract left (holds i) (fun _ => holds (i + 1)) (body i)) :
    Carries contract left (holds 0) (fun _ => holds count) ((List.range count).forM body) := by
  induction count with
  | zero => exact .returning fun _ _ met => met
  | succ count ih =>
      have first := ih fun i inside => each i (Nat.lt_succ_of_lt inside)
      rw [List.range_succ, List.forM_eq_forM, List.forM_append]
      refine .bind first fun _ => .bind (each count (Nat.lt_succ_self count)) fun _ => ?_
      exact .returning fun _ _ met => met

end Triples

end Procedure

end Interaction
