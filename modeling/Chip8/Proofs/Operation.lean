import Chip8.Fault
/-!
# Operations in sequence

An operation followed by another goes on where the first succeeds, from the
state that it left, and ends where the first is refused. The two equations
below are all that the theory uses of the sequencing of operations; what a
part does is then said by one equation for each of its operations.

Where only what an operation leaves matters, refused or not, it may `Keep` a
property of the state; what is kept by the parts of a sequence or of a loop is
kept by the whole. An operation that fails in certain ways only from such states is
`Confined`. Where only the result matters, `Gives` says what it is like. Where
both do, `Leads` says to which results and states an operation leads from states of a
kind, unless it escapes to states that it is not about.

Two operations on states of two kinds `Agree` if from related states they come to the
same result, or the same refusal, and leave related states. Sequences and loops of
operations that agree agree. Calls made one after another, each from what the one before
it has left, have the same `outcomes` if all of them agree.
-/

namespace Chip8
namespace Operation

variable {ε σ α β : Type} {first : EStateM ε σ α} {next : α → EStateM ε σ β}
variable {before after : σ}

/-- After a success the sequence goes on. -/
theorem bind_of_ok {result : α} (h : first before = .ok result after) :
    (first >>= next) before = next result after := by
  change EStateM.bind first next before = _
  rw [EStateM.bind, h]

/-- After a refusal it does not. -/
theorem bind_of_error {fault : ε} (h : first before = .error fault after) :
    (first >>= next) before = .error fault after := by
  change EStateM.bind first next before = _
  rw [EStateM.bind, h]

/-- A look at the state is followed by what is done with it. -/
theorem get_bind_apply (next : σ → EStateM ε σ β) (state : σ) :
    (get >>= next) state = next state state := rfl

/-- A sequence that succeeds has succeeded in both parts. -/
theorem ok_of_bind {result : β} (run : (first >>= next) before = .ok result after) :
    ∃ value middle, first before = .ok value middle ∧ next value middle = .ok result after := by
  cases start : first before with
  | ok value middle =>
    rw [bind_of_ok start] at run
    exact ⟨value, middle, rfl, run⟩
  | error fault middle =>
    rw [bind_of_error start] at run
    exact nomatch run

/-- A sequence that fails has failed in one of its parts. -/
theorem error_of_bind {fault : ε} (run : (first >>= next) before = .error fault after) :
    first before = .error fault after ∨
      ∃ value middle, first before = .ok value middle ∧ next value middle = .error fault after := by
  cases start : first before with
  | ok value middle =>
    rw [bind_of_ok start] at run
    exact .inr ⟨value, middle, rfl, run⟩
  | error cause middle =>
    rw [bind_of_error start] at run
    injection run with same kept
    exact .inl (by rw [same, kept])

/-- A loop over a list in two parts is two loops. -/
theorem forM_append_of_ok {γ : Type} {body : γ → EStateM ε σ PUnit} {front back : List γ}
    (h : front.forM body before = .ok ⟨⟩ after) :
    (front ++ back).forM body before = back.forM body after := by
  rw [List.forM_eq_forM, List.forM_append]
  exact bind_of_ok h

/-- **A loop whose rounds all succeed.** What holds before the first round, and goes on
to hold one round further by each round, holds of all rounds at the end. -/
theorem forM_of_rounds {γ : Type} {item : Nat → γ} {body : γ → EStateM ε σ PUnit}
    {count : Nat} (holds : Nat → σ → Prop)
    (round : ∀ k < count, ∀ before, holds k before →
      ∃ after, body (item k) before = .ok ⟨⟩ after ∧ holds (k + 1) after)
    (start : holds 0 before) :
    ∃ after, ((List.range count).map item).forM body before = .ok ⟨⟩ after ∧
      holds count after := by
  induction count with
  | zero => exact ⟨before, rfl, start⟩
  | succ count ih =>
    obtain ⟨middle, front, here⟩ := ih fun k lt => round k (by omega)
    obtain ⟨after, last, there⟩ := round count (by omega) middle here
    refine ⟨after, ?_, there⟩
    rw [List.range_succ, List.map_append, forM_append_of_ok front]
    exact bind_of_ok last

/-! ## What is kept -/

/-- What comes of an operation leaves a state, whether it is a result or a
refusal. -/
def left : EStateM.Result ε σ α → σ
  | .ok _ after => after
  | .error _ after => after

/-- The refusal, where there is one. -/
def failure? : EStateM.Result ε σ α → Option ε
  | .ok _ _ => none
  | .error fault _ => some fault

/-- **The operation keeps a property of the state**, whatever comes of it. -/
def Keeps (P : σ → Prop) (operation : EStateM ε σ α) : Prop :=
  ∀ before, P before → P (left (operation before))

variable {P : σ → Prop}

theorem Keeps.of_ok {operation : EStateM ε σ α} (kept : Keeps P operation) {result : α}
    (holds : P before) (run : operation before = .ok result after) : P after := by
  have left := kept before holds
  rw [run] at left
  exact left

theorem Keeps.pure (result : α) : Keeps P (Pure.pure result : EStateM ε σ α) :=
  fun _ holds => holds

/-- Looking at the state changes nothing. -/
theorem Keeps.get : Keeps P (MonadState.get : EStateM ε σ σ) :=
  fun _ holds => holds

theorem Keeps.modify {change : σ → σ} (kept : ∀ before, P before → P (change before)) :
    Keeps P (modify change : EStateM ε σ PUnit) :=
  fun before holds => kept before holds

theorem Keeps.bind (kept : Keeps P first) (later : ∀ result, Keeps P (next result)) :
    Keeps P (first >>= next) := by
  intro before holds
  have middle := kept before holds
  cases run : first before with
  | ok result after =>
    rw [run] at middle
    rw [bind_of_ok run]
    exact later result after middle
  | error fault after =>
    rw [run] at middle
    rw [bind_of_error run]
    exact middle

/-- So does what is there or is refused. -/
theorem Keeps.ofExcept {P : σ → Prop} (given : Except Fault α) :
    Keeps P (Operation.ofExcept given) := by
  cases given <;> exact fun _ holds => holds

theorem Keeps.forM {γ : Type} {items : List γ} {body : γ → EStateM ε σ PUnit}
    (round : ∀ item, Keeps P (body item)) : Keeps P (items.forM body) := by
  induction items with
  | nil => exact Keeps.pure _
  | cons item items ih => exact Keeps.bind (round item) fun _ => ih

theorem Keeps.foldlM {γ : Type} {items : List γ} {body : β → γ → EStateM ε σ β}
    (round : ∀ result item, Keeps P (body result item)) (start : β) :
    Keeps P (items.foldlM body start) := by
  induction items generalizing start with
  | nil => exact Keeps.pure _
  | cons item items ih =>
    rw [List.foldlM_cons]
    exact Keeps.bind (round start item) ih

/-- **The operation is confined**: on states of a kind, which it keeps, it fails in certain
ways only. -/
structure Confined (P : σ → Prop) (C : ε → Prop) (operation : EStateM ε σ α) : Prop where
  keeps : Keeps P operation
  fails : ∀ {before fault after}, P before → operation before = .error fault after → C fault

section Confinement

variable {C : ε → Prop}

theorem Keeps.confined {operation : EStateM ε σ α} (kept : Keeps P operation) :
    Confined P (fun _ => True) operation :=
  ⟨kept, fun _ _ => trivial⟩

/-- An operation that never fails fails in no way. -/
theorem Confined.of_ok {operation : EStateM ε σ α}
    (fine : ∀ before, P before → ∃ result after, operation before = .ok result after ∧ P after) :
    Confined P C operation where
  keeps before holds := by
    obtain ⟨result, after, ran, left⟩ := fine before holds
    rw [ran]
    exact left
  fails {before _ _} holds failed := by
    obtain ⟨result, after, ran, -⟩ := fine before holds
    rw [ran] at failed
    exact nomatch failed

/-- An operation that fails in no way succeeds. -/
theorem Confined.exists_ok {operation : EStateM ε σ α}
    (confined : Confined P (fun _ => False) operation) (holds : P before) :
    ∃ result after, operation before = .ok result after ∧ P after := by
  cases run : operation before with
  | ok result after => exact ⟨result, after, rfl, confined.keeps.of_ok holds run⟩
  | error fault after => exact (confined.fails holds run).elim

/-- What it keeps besides may be counted in. -/
theorem Confined.and {Q : σ → Prop} {operation : EStateM ε σ α}
    (confined : Confined P C operation) (kept : Keeps Q operation) :
    Confined (fun state => P state ∧ Q state) C operation :=
  ⟨fun _ holds => ⟨confined.keeps _ holds.1, kept _ holds.2⟩,
    fun holds failed => confined.fails holds.1 failed⟩

theorem Confined.pure (result : α) : Confined P C (Pure.pure result : EStateM ε σ α) :=
  ⟨Keeps.pure result, fun _ failed => nomatch failed⟩

theorem Confined.get : Confined P C (MonadState.get : EStateM ε σ σ) :=
  ⟨Keeps.get, fun _ failed => nomatch failed⟩

theorem Confined.modify {change : σ → σ} (kept : ∀ before, P before → P (change before)) :
    Confined P C (modify change : EStateM ε σ PUnit) :=
  ⟨Keeps.modify kept, fun _ failed => nomatch failed⟩

theorem Confined.bind (confined : Confined P C first)
    (later : ∀ result, Confined P C (next result)) :
    Confined P C (first >>= next) where
  keeps := Keeps.bind confined.keeps fun result => (later result).keeps
  fails holds failed := by
    rcases error_of_bind failed with failed | ⟨value, middle, ran, failed⟩
    · exact confined.fails holds failed
    · exact (later value).fails (confined.keeps.of_ok holds ran) failed

end Confinement

/-! ## What is given -/

/-- **The operation gives results of a kind only**, where it gives any. -/
def Gives (R : α → Prop) (operation : EStateM ε σ α) : Prop :=
  ∀ before result after, operation before = .ok result after → R result

variable {R : α → Prop} {S : β → Prop}

theorem Gives.pure {result : α} (holds : R result) :
    Gives R (Pure.pure result : EStateM ε σ α) := by
  intro before given after run
  injection run with same
  exact same ▸ holds

/-- The last operation of a sequence gives the result. -/
theorem Gives.bind (later : ∀ result, Gives S (next result)) : Gives S (first >>= next) := by
  intro before given after run
  obtain ⟨result, middle, -, rest⟩ := ok_of_bind run
  exact later result middle given after rest

/-! ## What is led to -/

/-- **The operation leads from states of a kind to results of a kind**, unless it escapes:
unless it leaves a state of which nothing more is said. There is no way back from an
escape. -/
structure Leads (E P : σ → Prop) (operation : EStateM ε σ α) (Q : α → σ → Prop) : Prop where
  stays : Keeps E operation
  leads : ∀ before, P before → E (left (operation before)) ∨
    ∃ result after, operation before = .ok result after ∧ Q result after

section Leading

variable {E P P' : σ → Prop} {middle : α → σ → Prop} {Q Q' : β → σ → Prop}

theorem Leads.pure {result : β} (holds : ∀ before, P before → Q result before) :
    Leads E P (Pure.pure result : EStateM ε σ β) Q where
  stays := Keeps.pure result
  leads before given := .inr ⟨result, before, rfl, holds before given⟩

theorem Leads.modify {change : σ → σ} {Q : PUnit → σ → Prop}
    (stays : ∀ before, E before → E (change before))
    (holds : ∀ before, P before → Q ⟨⟩ (change before)) :
    Leads E P (modify change : EStateM ε σ PUnit) Q where
  stays := Keeps.modify stays
  leads before given := .inr ⟨⟨⟩, change before, rfl, holds before given⟩

theorem Leads.bind (start : Leads E P first middle)
    (rest : ∀ result, Leads E (middle result) (next result) Q) :
    Leads E P (first >>= next) Q where
  stays := Keeps.bind start.stays fun result => (rest result).stays
  leads before given := by
    rcases start.leads before given with escaped | ⟨result, after, run, holds⟩
    · left
      cases run : first before with
      | ok result after =>
        rw [run] at escaped
        rw [bind_of_ok run]
        exact (rest result).stays after escaped
      | error fault after =>
        rw [run] at escaped
        rw [bind_of_error run]
        exact escaped
    · rw [bind_of_ok run]
      exact (rest result).leads after holds

/-- What is done with the state may be another thing for each state. -/
theorem Leads.get_bind {next : σ → EStateM ε σ β} (stays : Keeps E (get >>= next))
    (later : ∀ state, P state → Leads E P (next state) Q) : Leads E P (get >>= next) Q where
  stays := stays
  leads before given := (later before given).leads before given

/-- Of what is not met with nothing has to be shown but that there is no way back. -/
theorem Leads.of_never {operation : EStateM ε σ β} (stays : Keeps E operation)
    (never : ∀ before, ¬ P before) : Leads E P operation Q where
  stays := stays
  leads before given := absurd given (never before)

theorem Leads.mono {operation : EStateM ε σ β} (leads : Leads E P operation Q)
    (given : ∀ before, P' before → P before)
    (shown : ∀ result after, Q result after → Q' result after) : Leads E P' operation Q' where
  stays := leads.stays
  leads before start := by
    rcases leads.leads before (given before start) with escaped | ⟨result, after, run, holds⟩
    · exact .inl escaped
    · exact .inr ⟨result, after, run, shown result after holds⟩

end Leading

/-! ## What two operations share -/

section Agreement

variable {τ : Type} {S : σ → τ → Prop}
variable {second : EStateM ε τ α} {further : α → EStateM ε τ β}

/-- The same result, or the same refusal, with related states left. -/
inductive Matched (S : σ → τ → Prop) : EStateM.Result ε σ α → EStateM.Result ε τ α → Prop where
  | ok {left : σ} {right : τ} (result : α) (related : S left right) :
      Matched S (.ok result left) (.ok result right)
  | error {left : σ} {right : τ} (fault : ε) (related : S left right) :
      Matched S (.error fault left) (.error fault right)

/-- **The operations agree**: from related states they come to the same, and leave
related states. -/
def Agree (S : σ → τ → Prop) (first : EStateM ε σ α) (second : EStateM ε τ α) : Prop :=
  ∀ left right, S left right → Matched S (first left) (second right)

theorem Agree.pure (result : α) :
    Agree S (Pure.pure result : EStateM ε σ α) (Pure.pure result : EStateM ε τ α) :=
  fun _ _ related => .ok result related

theorem Agree.modify {change : σ → σ} {change' : τ → τ}
    (kept : ∀ left right, S left right → S (change left) (change' right)) :
    Agree S (modify change : EStateM ε σ PUnit) (modify change' : EStateM ε τ PUnit) :=
  fun left right related => Matched.ok PUnit.unit (kept left right related)

theorem Agree.bind (start : Agree S first second)
    (later : ∀ result, Agree S (next result) (further result)) :
    Agree S (first >>= next) (second >>= further) := by
  intro left right related
  have middle := start left right related
  cases run : first left with
  | ok result after =>
    rw [run] at middle
    cases run' : second right with
    | ok result' after' =>
      rw [run'] at middle
      cases middle with
      | ok _ related =>
        rw [bind_of_ok run, bind_of_ok run']
        exact later result _ _ related
    | error fault' after' =>
      rw [run'] at middle
      exact nomatch middle
  | error fault after =>
    rw [run] at middle
    cases run' : second right with
    | ok result' after' =>
      rw [run'] at middle
      exact nomatch middle
    | error fault' after' =>
      rw [run'] at middle
      cases middle with
      | error _ related =>
        rw [bind_of_error run, bind_of_error run']
        exact .error fault related

/-- What is done with the states may be another thing for each two of them, as long as
it agrees where they are related. -/
theorem Agree.get_bind {next : σ → EStateM ε σ β} {further : τ → EStateM ε τ β}
    (later : ∀ left right, S left right → Agree S (next left) (further right)) :
    Agree S (get >>= next) (get >>= further) :=
  fun left right related => later left right related left right related

theorem Agree.forM {γ : Type} {items : List γ} {body : γ → EStateM ε σ PUnit}
    {body' : γ → EStateM ε τ PUnit} (round : ∀ item, Agree S (body item) (body' item)) :
    Agree S (items.forM body) (items.forM body') := by
  induction items with
  | nil => exact Agree.pure _
  | cons item items ih => exact Agree.bind (round item) fun _ => ih

theorem Agree.foldlM {γ : Type} {items : List γ} {body : β → γ → EStateM ε σ β}
    {body' : β → γ → EStateM ε τ β} (round : ∀ result item, Agree S (body result item)
      (body' result item)) (start : β) :
    Agree S (items.foldlM body start) (items.foldlM body' start) := by
  induction items generalizing start with
  | nil => exact Agree.pure _
  | cons item items ih =>
    rw [List.foldlM_cons, List.foldlM_cons]
    exact Agree.bind (round start item) ih

/-- An operation agrees with itself. -/
theorem Agree.refl (operation : EStateM ε σ α) : Agree Eq operation operation := by
  rintro before _ rfl
  cases operation before with
  | ok result after => exact .ok result rfl
  | error fault after => exact .error fault rfl

/-! ## Calls one after another -/

variable {γ : Type} {serve : γ → EStateM ε σ α} {serve' : γ → EStateM ε τ α}

/-- The result of an operation, or its refusal. -/
def outcome : EStateM.Result ε σ α → Except ε α
  | .ok result _ => .ok result
  | .error fault _ => .error fault

/-- The state after calls made one after another, whatever came of each. -/
def afterAll (serve : γ → EStateM ε σ α) (calls : List γ) (state : σ) : σ :=
  calls.foldl (fun state call => left (serve call state)) state

/-- What came of each of them. -/
def outcomes (serve : γ → EStateM ε σ α) : List γ → σ → List (Except ε α)
  | [], _ => []
  | call :: calls, state =>
    outcome (serve call state) :: outcomes serve calls (left (serve call state))

theorem afterAll_append (first later : List γ) (state : σ) :
    afterAll serve (first ++ later) state = afterAll serve later (afterAll serve first state) :=
  List.foldl_append

/-- A last call that succeeds leaves what it leaves by itself. -/
theorem afterAll_concat_of_ok {calls : List γ} {call : γ} {state after : σ} {result : α}
    (run : serve call (afterAll serve calls state) = .ok result after) :
    afterAll serve (calls ++ [call]) state = after := by
  rw [afterAll_append]
  exact congrArg left run

theorem outcomes_append (first later : List γ) (state : σ) :
    outcomes serve (first ++ later) state =
      outcomes serve first state ++ outcomes serve later (afterAll serve first state) := by
  induction first generalizing state with
  | nil => rfl
  | cons call first ih => exact congrArg (outcome (serve call state) :: ·) (ih _)

theorem Matched.outcome_eq {result : EStateM.Result ε σ α} {result' : EStateM.Result ε τ α}
    (matched : Matched S result result') : outcome result = outcome result' := by
  cases matched <;> rfl

theorem Matched.left {result : EStateM.Result ε σ α} {result' : EStateM.Result ε τ α}
    (matched : Matched S result result') : S (left result) (left result') := by
  cases matched <;> assumption

/-- **Calls that agree are not told apart**: from related states the same comes of each of
them, and related states are left. -/
theorem Agree.calls (each : ∀ call, Agree S (serve call) (serve' call)) (calls : List γ)
    {before : σ} {before' : τ} (related : S before before') :
    outcomes serve calls before = outcomes serve' calls before' ∧
      S (afterAll serve calls before) (afterAll serve' calls before') := by
  induction calls generalizing before before' with
  | nil => exact ⟨rfl, related⟩
  | cons call calls ih =>
    have here := each call before before' related
    obtain ⟨same, last⟩ := ih here.left
    refine ⟨?_, last⟩
    rw [outcomes, outcomes, here.outcome_eq, same]

end Agreement

end Operation
end Chip8
