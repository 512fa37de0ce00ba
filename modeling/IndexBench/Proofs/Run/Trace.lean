import IndexBench.World

/-!
# Traces of scripts

What a script does in a world is a row of actions with their answers.  The record
of requests that the world keeps is the requests among them.

Main definitions:

- `Deed` is an action with its answer and `Script.trace` what a script does.
- `Script.requests` is the requests that a script sends.
- `Script.Sends` says that a script sends given requests unless it is cut short.

Main results:

- Theorem `Script.calls_run`: a world records exactly the requests of a trace.
- Theorem `Script.Sends.bind`: scripts in a row send their requests in a row, and
  nothing more once the first of them is cut short.
-/

namespace IndexBench

/-! ## Deeds -/

/-- An action with its answer. -/
structure Deed where
  action : Action
  answer : action.Answer

/-- The record of a deed, if it is a request. -/
def Deed.call? : Deed → Option Call
  | ⟨.call request, answer⟩ => some ⟨request, failureOf answer⟩
  | ⟨.measure request, answer⟩ => some ⟨request, failureOf answer⟩
  | _ => none

/-- The requests that a world has recorded. -/
def World.requests {σ : Type} (world : World σ) : List Request :=
  world.calls.map Call.request

namespace Script

variable {σ α β : Type}

/-! ## Traces -/

/-- What a script does in a world, in order. -/
def trace (env : Environment σ) : Script α → World σ → List Deed
  | done _, _ => []
  | step action next, world =>
      let performed := world.perform env action
      ⟨action, performed.1⟩ :: (next performed.1).trace env performed.2

/-- A value does nothing. -/
@[simp]
theorem trace_pure (env : Environment σ) (value : α) (world : World σ) :
    (pure value : Script α).trace env world = [] :=
  rfl

/-- Scripts in a row do what each of them does. -/
@[simp]
theorem trace_bind (env : Environment σ) (script : Script α) (f : α → Script β)
    (world : World σ) :
    (script >>= f).trace env world =
      script.trace env world ++
        (f (script.run env world).1).trace env (script.run env world).2 := by
  induction script generalizing world with
  | done value => rfl
  | step action next ih => exact congrArg (List.cons _) (ih _ _)

/-- Doing something with the value of a script runs the script. -/
@[simp]
theorem run_map (env : Environment σ) (f : α → β) (script : Script α) (world : World σ) :
    (f <$> script).run env world =
      (f (script.run env world).1, (script.run env world).2) := by
  rw [map_eq_pure_bind, run_bind, run_pure]

/-- Taking the time of a request does not change its outcome. -/
theorem outcome_measure (env : Environment σ) (request : Request) (world : World σ) :
    ((measure request).run env world).1.map Prod.fst =
      (env.answer request world.state).outcome := by
  change (world.perform env (.measure request)).1.map Prod.fst = _
  cases houtcome : (env.answer request world.state).outcome with
  | error failure => simp [World.perform, houtcome, Except.map]
  | ok reply => simp [World.perform, houtcome, Except.map]

/-- An action is recorded if it is a request, whatever its answer. -/
theorem calls_perform (env : Environment σ) (world : World σ) (action : Action) :
    (world.perform env action).2.calls =
      world.calls ++ (Deed.call? ⟨action, (world.perform env action).1⟩).toList := by
  cases action with
  | call request => rfl
  | measure request =>
      cases houtcome : (env.answer request world.state).outcome with
      | error failure => simp [World.perform, World.record, houtcome, Deed.call?, failureOf]
      | ok reply => simp [World.perform, World.record, houtcome, Deed.call?, failureOf]
  | write text => exact (List.append_nil _).symm
  | note event => exact (List.append_nil _).symm
  | connect address => exact (List.append_nil _).symm
  | inspect path => exact (List.append_nil _).symm
  | save path bytes =>
      cases hsave : env.save path bytes world.state with
      | error fault => simp [World.perform, hsave, Deed.call?]
      | ok state => simp [World.perform, hsave, Deed.call?]

/-- A world records exactly the requests of a trace. -/
theorem calls_run (env : Environment σ) (script : Script α) (world : World σ) :
    (script.run env world).2.calls =
      world.calls ++ (script.trace env world).filterMap Deed.call? := by
  induction script generalizing world with
  | done value => exact (List.append_nil _).symm
  | step action next ih =>
      have hrest := ih (world.perform env action).1 (world.perform env action).2
      rw [calls_perform, List.append_assoc] at hrest
      refine hrest.trans (congrArg _ ?_)
      rw [trace, List.filterMap_cons]
      cases Deed.call? ⟨action, (world.perform env action).1⟩ <;> rfl

/-! ## Requests -/

/-- The requests that a script sends, in order. -/
def requests (env : Environment σ) (script : Script α) (world : World σ) : List Request :=
  ((script.trace env world).filterMap Deed.call?).map Call.request

@[simp]
theorem requests_pure (env : Environment σ) (value : α) (world : World σ) :
    (pure value : Script α).requests env world = [] :=
  rfl

@[simp]
theorem requests_bind (env : Environment σ) (script : Script α) (f : α → Script β)
    (world : World σ) :
    (script >>= f).requests env world =
      script.requests env world ++
        (f (script.run env world).1).requests env (script.run env world).2 := by
  simp [requests]

@[simp]
theorem requests_map (env : Environment σ) (f : α → β) (script : Script α) (world : World σ) :
    (f <$> script).requests env world = script.requests env world := by
  rw [map_eq_pure_bind, requests_bind, requests_pure, List.append_nil]

@[simp]
theorem requests_note (env : Environment σ) (event : Event) (world : World σ) :
    (note event).requests env world = [] :=
  rfl

@[simp]
theorem requests_call (env : Environment σ) (request : Request) (world : World σ) :
    (call request).requests env world = [request] :=
  rfl

/-- An attempt sends its request once, whether or not it fails. -/
@[simp]
theorem requests_attempt (env : Environment σ) (purpose : Purpose) (request : Request)
    (world : World σ) : (attempt purpose request).requests env world = [request] := by
  rw [attempt, requests_bind, requests_call]
  cases ((call request).run env world).1 <;> simp

/-! ## Scripts that may be cut short -/

/-- Whether a script sends given requests: all of them if it finishes, and else
those at the start. -/
def Sends (script : Script α) (finished : α → Prop) (sent : List Request) : Prop :=
  ∀ (σ : Type) (env : Environment σ) (world : World σ),
    script.requests env world <+: sent ∧
      (finished (script.run env world).1 → script.requests env world = sent)

/-- Whether a script always sends given requests. -/
abbrev AlwaysSends (script : Script α) (sent : List Request) : Prop :=
  script.Sends (fun _ => True) sent

namespace Sends

variable {finished : α → Prop} {sent more : List Request}

/-- A script that always sends the same requests does so however it ends. -/
theorem of_requests {script : Script α}
    (h : ∀ (σ : Type) (env : Environment σ) (world : World σ), script.requests env world = sent) :
    script.Sends finished sent := by
  intro σ env world
  rw [h σ env world]
  exact ⟨List.prefix_rfl, fun _ => rfl⟩

/-- A value sends nothing. -/
theorem pure (value : α) : (pure value : Script α).Sends finished [] :=
  of_requests fun _ _ _ => rfl

/-- Scripts in a row send their requests in a row, and nothing more once the first
of them is cut short. -/
theorem bind {script : Script α} {f : α → Script β} {finished' : β → Prop}
    (h : script.Sends finished sent) (hf : ∀ value, finished value → (f value).Sends finished' more)
    (hstop : ∀ value, ¬finished value → ∃ last, f value = Pure.pure last ∧ ¬finished' last) :
    (script >>= f).Sends finished' (sent ++ more) := by
  intro σ env world
  obtain ⟨hstart, hall⟩ := h σ env world
  rw [requests_bind, run_bind]
  by_cases hfinished : finished (script.run env world).1
  · obtain ⟨hmore, hall'⟩ := hf _ hfinished σ env (script.run env world).2
    rw [hall hfinished]
    exact ⟨(List.prefix_append_right_inj sent).mpr hmore, fun h => congrArg _ (hall' h)⟩
  · obtain ⟨last, hlast, hunfinished⟩ := hstop _ hfinished
    rw [hlast]
    refine ⟨?_, fun h => absurd h hunfinished⟩
    rw [requests_pure, List.append_nil]
    exact hstart.trans (List.prefix_append sent more)

/-- After a script that is never cut short comes the next one. -/
theorem always_bind {script : Script α} {f : α → Script β} {finished' : β → Prop}
    (h : script.AlwaysSends sent) (hf : ∀ value, (f value).Sends finished' more) :
    (script >>= f).Sends finished' (sent ++ more) :=
  h.bind (fun value _ => hf value) fun _ hvalue => absurd trivial hvalue

/-- Doing something with the value of a script sends nothing more. -/
theorem map {script : Script α} (h : script.Sends finished sent) {finished' : β → Prop}
    (f : α → β) (hf : ∀ value, finished' (f value) → finished value) :
    (f <$> script).Sends finished' sent := by
  intro σ env world
  rw [requests_map, run_map]
  exact ⟨(h σ env world).1, fun hvalue => (h σ env world).2 (hf _ hvalue)⟩

/-- Noting an event sends nothing. -/
theorem note (event : Event) : (note event).AlwaysSends [] :=
  of_requests fun _ _ _ => rfl

/-- An attempt sends its request once, whether or not it fails. -/
theorem attempt (purpose : Purpose) (request : Request) :
    (attempt purpose request).AlwaysSends [request] :=
  of_requests fun _ _ _ => requests_attempt ..

/-- A measured request is sent once, whether or not it fails. -/
theorem measure (request : Request) : (measure request).AlwaysSends [request] :=
  of_requests fun _ _ _ => rfl

/-- The requests of a script that is never cut short are known. -/
theorem requests_eq {script : Script α} (h : script.AlwaysSends sent) (env : Environment σ)
    (world : World σ) : script.requests env world = sent :=
  (h σ env world).2 trivial

end Sends
end Script

/-! ## Printing -/

/-- Whether a printing script sends given requests: all of them unless the console
ends it. -/
def Printing.Sends {α : Type} (script : Printing α) (sent : List Request) : Prop :=
  Script.Sends script.run (fun result => ∃ value, result = .ok value) sent

/-- A script that does not print runs before what follows it. -/
theorem Printing.run_lift_bind {α β : Type} (script : Script α) (f : α → Printing β) :
    ExceptT.run (liftM script >>= f) = script >>= fun value => (f value).run := by
  simp [ExceptT.run_bind]

namespace Printing.Sends

variable {α β : Type} {sent more : List Request}

/-- A value sends nothing. -/
theorem pure (value : α) : (Pure.pure value : Printing α).Sends [] :=
  Script.Sends.pure _

/-- Printing sends nothing. -/
theorem print (text : String) : (IndexBench.print text).Sends [] :=
  Script.Sends.of_requests fun _ _ _ => rfl

/-- A script that does not print sends what it always sends. -/
theorem lift {script : Script α} (h : script.AlwaysSends sent) :
    (liftM script : Printing α).Sends sent := by
  have hvalue (value : α) : (Pure.pure (Except.ok value) : Script (Except IoFault α)).Sends
      (fun result => ∃ value, result = .ok value) [] := Script.Sends.pure _
  have hrun := h.always_bind hvalue
  rwa [List.append_nil] at hrun

/-- Printing scripts in a row send their requests in a row, until the console ends
one of them. -/
theorem bind {script : Printing α} {f : α → Printing β} (h : script.Sends sent)
    (hf : ∀ value, (f value).Sends more) : (script >>= f).Sends (sent ++ more) := by
  refine Script.Sends.bind h (fun result hresult => ?_) fun result hresult => ?_
  · obtain ⟨value, rfl⟩ := hresult
    exact hf value
  · cases result with
    | error fault => exact ⟨.error fault, rfl, by simp⟩
    | ok value => exact absurd ⟨value, rfl⟩ hresult

end Printing.Sends
end IndexBench
